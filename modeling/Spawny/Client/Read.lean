import Spawny.Protocol.Encoding

/-! # libsp_client/client.c: reading from the daemon

`sp_client_read` takes what one `read` returns for one message. The daemon writes its messages one
after the other (`DaemonMessage`), and nothing on the stream says where one ends.

* `spClientRead_bytes`: a message that is read on its own is delivered;
* `groups_eq_fields`: if the pieces are delivered as the messages, they are the messages;
* `reads_eq_deliveries_iff`: **the client gets exactly the messages of the daemon, if and only if
  each read returns exactly one of them.** -/

namespace Spawny.Client.Read

open Spawny.Lib.Wire Spawny.Protocol Spawny.Protocol.Messages

/-! ### sp_client_read -/

/-- `Template` of `Sp_Client.h`. -/
structure Template where
  id : ℕ
  icon : String
  name : String
  deriving DecidableEq, Repr

/-- `User` of `Sp_Client.h`; the preferred session is the id of a template. -/
structure User where
  id : ℕ
  icon : String
  name : String
  preferedSession : ℕ
  deriving DecidableEq, Repr

/-- `Session` of `Sp_Client.h`. -/
structure Session where
  id : ℕ
  icon : String
  user : String
  name : String
  deriving DecidableEq, Repr

/-- The arrays of `Sp_Client_Context`. An entry of a private array is the id the daemon uses for the
entry of the public array at its place. -/
structure Context where
  sessions : List Session
  privateSessions : List String
  templates : List Template
  privateTemplates : List String
  users : List User
  deriving DecidableEq, Repr

/-- `_find_simular_session`. -/
def findSimularSession (templates : List Template) (preferedSession : String) : ℕ :=
  (templates.findIdx? fun t => t.name == preferedSession).getD 0

/-- `_data_convert`: every array is filled anew, the templates first. -/
def dataConvert (d : Data) : Context :=
  let templates := d.templates.mapIdx fun i t => ⟨i, t.icon, t.name⟩
  { templates := templates
    sessions := d.sessions.mapIdx fun i s => ⟨i, s.icon, s.user, s.name⟩
    users := d.users.mapIdx fun i u =>
      ⟨i, u.icon, u.name, findSimularSession templates u.preferedSession⟩
    privateSessions := d.sessions.map Messages.Session.id
    privateTemplates := d.templates.map SessionTemplate.id }

/-- `Sp_Client_Read_Result`. -/
inductive ReadResult
  | success
  | failure
  | exit
  deriving DecidableEq, Repr

/-- The callbacks of `Sp_Client_Interface`; `data` with the context it finds. -/
inductive Callback
  | data (ctx : Context)
  | feedback (success : Bool) (msg : String)
  deriving DecidableEq, Repr

/-- What one call does: the result code and the callback, or a `NULL` payload is used. -/
inductive Outcome
  | returns (result : ReadResult) (cb : Option Callback)
  | crash
  deriving DecidableEq, Repr

/-- The `switch` of `sp_client_read`. -/
def handle (m : ServerMessage) : Outcome :=
  match m.type with
  | .leave => .returns .exit none
  | .dataUpdate =>
    match m.data with
    | none => .crash
    | some d => .returns .success (some (.data (dataConvert d)))
  | .loginFeedback =>
    match m.feedback with
    | none => .crash
    | some fb => .returns .success (some (.feedback fb.success fb.msg))

/-- `Sp_Client_Interface`: which of the callbacks are set. -/
structure Interface where
  dataCb : Bool
  feedbackCb : Bool

/-- `_interface_check`. -/
def interfaceCheck (interface : Option Interface) : Bool :=
  match interface with
  | none => false
  | some i => i.feedbackCb && i.dataCb

variable (C : FieldCode ServerField)

/-- `sp_client_read`, where `read` returns the bytes `buf`; nothing is read without an interface. -/
def spClientRead (interface : Option Interface) (buf : List UInt8) : Outcome :=
  if interfaceCheck interface then
    if buf.length < 1 then .returns .failure none
    else
      match ServerMessage.unpack C buf with
      | none => .returns .failure none
      | some m => handle m
  else .returns .failure none

/-! ### The stream -/

def MAX_MSG_SIZE : ℕ := 4096

/-- The messages the daemon writes: `_send_message` is called with a type and the payload that
belongs to it. -/
inductive DaemonMessage
  | dataUpdate (d : Data)
  | loginFeedback (fb : RequestFeedback)
  | leave
  deriving DecidableEq, Repr

def DaemonMessage.message : DaemonMessage → ServerMessage
  | dataUpdate d => ⟨.dataUpdate, none, some d⟩
  | loginFeedback fb => ⟨.loginFeedback, some fb, none⟩
  | leave => ⟨.leave, none, none⟩

/-- What the client should get for a message. -/
def DaemonMessage.delivery : DaemonMessage → Outcome
  | dataUpdate d => .returns .success (some (.data (dataConvert d)))
  | loginFeedback fb => .returns .success (some (.feedback fb.success fb.msg))
  | leave => .returns .exit none

/-- The bytes of a message on the stream. -/
def DaemonMessage.bytes (m : DaemonMessage) : List UInt8 := m.message.pack C

/-- The stream of the messages `ms` is read in the pieces `segs`. -/
structure Segments (ms : List DaemonMessage) (segs : List (List UInt8)) : Prop where
  stream : segs.flatten = ms.flatMap (DaemonMessage.bytes C)
  nonempty : ∀ s ∈ segs, s ≠ []
  length_le : ∀ s ∈ segs, s.length ≤ MAX_MSG_SIZE

variable {C}

theorem handle_message (m : DaemonMessage) : handle m.message = m.delivery := by cases m <;> rfl

theorem bytes_ne_nil (m : DaemonMessage) : m.bytes C ≠ [] := by
  unfold DaemonMessage.bytes ServerMessage.pack ServerMessage.fields
  rw [Ne, C.encode_eq_nil]
  exact List.cons_ne_nil _ _

/-- A message that is read on its own is read as it was written. -/
theorem spClientRead_bytes {interface : Option Interface} (hi : interfaceCheck interface = true)
    (m : DaemonMessage) : spClientRead C interface (m.bytes C) = m.delivery := by
  have hlen := List.length_pos_of_ne_nil (bytes_ne_nil (C := C) m)
  rw [spClientRead, if_pos hi, if_neg (by omega), DaemonMessage.bytes, ServerMessage.unpack_pack]
  exact handle_message m

/-! ### Pieces and messages -/

/-- The field that every message has once, in front. -/
def isType (f : ServerField) : Bool := f.type?.isSome

theorem countP_fields (m : DaemonMessage) : m.message.fields.countP isType = 1 := by
  cases m <;> rfl

theorem countP_flatMap_fields (ms : List DaemonMessage) :
    (ms.flatMap fun m => m.message.fields).countP isType = ms.length := by
  induction ms with
  | nil => rfl
  | cons m ms ih =>
    rw [List.flatMap_cons, List.countP_append, ih, countP_fields, List.length_cons, Nat.add_comm]

theorem length_le_countP {groups : List (List ServerField)}
    (h : ∀ g ∈ groups, ∃ f ∈ g, isType f = true) : groups.length ≤ groups.flatten.countP isType := by
  induction groups with
  | nil => exact Nat.zero_le _
  | cons g groups ih =>
    have hg := List.countP_pos_iff.mpr (h g List.mem_cons_self)
    have hgs := ih fun g' hg' => h g' (List.mem_cons_of_mem _ hg')
    rw [List.length_cons, List.flatten_cons, List.countP_append]
    omega

/-- What the client gets for a piece that consists of the fields `g`. -/
def groupOutcome (g : List ServerField) : Outcome :=
  match ServerMessage.assemble g with
  | none => .returns .failure none
  | some m => handle m

theorem exists_type_of_groupOutcome {g : List ServerField}
    (h : groupOutcome g ≠ .returns .failure none) : ∃ f ∈ g, isType f = true := by
  by_contra hno
  have hnil : g.filterMap ServerField.type? = [] := by
    refine List.filterMap_eq_nil_iff.mpr fun f hf => ?_
    by_contra hf'
    exact hno ⟨f, hf, Option.isSome_iff_ne_none.mpr hf'⟩
  exact h (by simp [groupOutcome, ServerMessage.assemble, hnil])

/-- A proper part of a message is not delivered: without its payload it crashes the client. -/
theorem delivery_of_fields_cut {m : DaemonMessage} {g e : List ServerField}
    (h : m.message.fields = g ++ e) (hg : g ≠ []) (hout : groupOutcome g = m.delivery) : e = [] := by
  obtain ⟨f, g, rfl⟩ := List.exists_cons_of_ne_nil hg
  obtain ⟨rfl, htail⟩ := List.cons.inj (h.trans (List.cons_append ..))
  rcases g with _ | ⟨f', g⟩
  · -- the payload is missing
    cases m
    · cases hout
    · cases hout
    · exact htail.symm
  · -- a message has one payload at most
    have hlen := congrArg List.length htail
    simp only [List.length_append, List.length_cons] at hlen
    refine List.length_eq_zero_iff.mp ?_
    cases m <;> simp [DaemonMessage.message] at hlen <;> omega

/-- **Pieces are messages.** If the fields of the messages are grouped and every group is delivered
as the message at its place, the groups are the messages. -/
theorem groups_eq_fields : ∀ (ms : List DaemonMessage) (groups : List (List ServerField)),
    groups.flatten = ms.flatMap (fun m => m.message.fields) → (∀ g ∈ groups, g ≠ []) →
      groups.map groupOutcome = ms.map DaemonMessage.delivery →
        groups = ms.map fun m => m.message.fields
  | [], [], _, _, _ => rfl
  | [], _ :: _, _, _, h => by simp at h
  | _ :: _, [], _, _, h => by simp at h
  | m :: ms, g :: groups, hflat, hne, hout => by
    rw [List.flatten_cons, List.flatMap_cons] at hflat
    obtain ⟨hg, hgs⟩ := List.cons.inj hout
    have hne' : ∀ g' ∈ groups, g' ≠ [] := fun g' h => hne g' (List.mem_cons_of_mem _ h)
    -- every later group has a type, so the first one cannot reach into the second message
    have hlen : groups.length = ms.length := by simpa using congrArg List.length hgs
    have htypes : ∀ g' ∈ groups, ∃ f ∈ g', isType f = true := by
      intro g' hg'
      refine exists_type_of_groupOutcome fun hfail => ?_
      have hmem : groupOutcome g' ∈ ms.map DaemonMessage.delivery :=
        hgs ▸ List.mem_map_of_mem hg'
      obtain ⟨m', -, hm'⟩ := List.mem_map.mp hmem
      rw [hfail] at hm'
      cases m' <;> cases hm'
    have hcount := length_le_countP htypes
    rcases List.append_eq_append_iff.mp hflat with ⟨e, he, hrest⟩ | ⟨e, rfl, hrest⟩
    · -- the group ends inside the message
      obtain rfl := delivery_of_fields_cut he (hne g List.mem_cons_self) hg
      rw [List.append_nil] at he
      rw [List.nil_append] at hrest
      rw [List.map_cons, he, groups_eq_fields ms groups hrest hne' hgs]
    · rcases ms with _ | ⟨m', ms⟩
      · obtain ⟨rfl, -⟩ := List.append_eq_nil_iff.mp hrest.symm
        obtain rfl := List.length_eq_zero_iff.mp hlen
        simp
      · rcases e with _ | ⟨f, e⟩
        · rw [List.append_nil] at hg ⊢
          rw [List.nil_append] at hrest
          rw [List.map_cons, groups_eq_fields (m' :: ms) groups hrest.symm hne' hgs]
        · exfalso
          have htotal := countP_flatMap_fields (m' :: ms)
          have hf : f = .type m'.message.type := by
            rw [List.flatMap_cons] at hrest
            exact (List.cons.inj hrest).1.symm
          rw [hrest, List.countP_append, List.countP_cons, hf] at htotal
          simp only [isType, ServerField.type?, Option.isSome_some, if_true] at htotal
          omega

/-! ### What arrives -/

/-- **One read for one message.** For all messages of the daemon and every way in which their bytes
are read, the calls of `sp_client_read` deliver exactly these messages if and only if each read
returns the bytes of one message. -/
theorem reads_eq_deliveries_iff {interface : Option Interface}
    (hi : interfaceCheck interface = true) {ms : List DaemonMessage} {segs : List (List UInt8)}
    (h : Segments C ms segs) :
    segs.map (spClientRead C interface) = ms.map DaemonMessage.delivery ↔
      segs = ms.map (DaemonMessage.bytes C) := by
  constructor
  · intro hout
    have hstream : segs.flatten = C.encode (ms.flatMap fun m => m.message.fields) := by
      rw [h.stream, FieldCode.encode, List.flatMap_assoc]
      rfl
    have hread : ∀ s ∈ segs, spClientRead C interface s =
        match ServerMessage.unpack C s with
        | none => .returns .failure none
        | some m => handle m := by
      intro s hs
      have hlen := List.length_pos_of_ne_nil (h.nonempty s hs)
      rw [spClientRead, if_pos hi, if_neg (by omega)]
    have hdec : ∀ s ∈ segs, C.decode s ≠ none := by
      intro s hs hnone
      have hmem : spClientRead C interface s ∈ ms.map DaemonMessage.delivery :=
        hout ▸ List.mem_map_of_mem hs
      obtain ⟨m, -, hm⟩ := List.mem_map.mp hmem
      rw [hread s hs, ServerMessage.unpack, hnone] at hm
      cases m <;> cases hm
    obtain ⟨groups, hflat, rfl⟩ := C.exists_groups segs _ hstream hdec
    have hgroups : groups = ms.map fun m => m.message.fields := by
      refine groups_eq_fields ms groups hflat (fun g hg hnil => ?_) ?_
      · exact h.nonempty _ (List.mem_map_of_mem hg) (by rw [hnil]; rfl)
      · rw [← hout, List.map_map]
        refine List.map_congr_left fun g hg => ?_
        rw [Function.comp_apply, hread _ (List.mem_map_of_mem hg), ServerMessage.unpack,
          C.decode_encode]
        rfl
    rw [hgroups, List.map_map]
    rfl
  · rintro rfl
    rw [List.map_map]
    exact List.map_congr_left fun m _ => spClientRead_bytes hi m

theorem reads_eq_deliveries_iff_leave :
    [DaemonMessage.leave.bytes Encoding.serverCode].map
        (spClientRead Encoding.serverCode (some ⟨true, true⟩)) =
      [DaemonMessage.leave].map DaemonMessage.delivery := by
  have hsegs : Segments Encoding.serverCode [.leave]
      ([DaemonMessage.leave].map (DaemonMessage.bytes Encoding.serverCode)) :=
    ⟨rfl, by simp [bytes_ne_nil], by decide⟩
  exact (reads_eq_deliveries_iff rfl hsegs).mpr rfl

/-- **A login that succeeds.** The feedback and the `LEAVE` are written at once. If one `read`
returns both, the client leaves without the feedback. -/
theorem feedback_lost_in_leave :
    ∃ segs, Segments Encoding.serverCode
        [.loginFeedback ⟨true, "You are logged in!"⟩, .leave] segs ∧
      segs.map (spClientRead Encoding.serverCode (some ⟨true, true⟩)) = [.returns .exit none] ∧
      segs.map (spClientRead Encoding.serverCode (some ⟨true, true⟩)) ≠
        [DaemonMessage.loginFeedback ⟨true, "You are logged in!"⟩, .leave].map
          DaemonMessage.delivery := by
  refine ⟨[[8, 1, 18, 22, 8, 1, 18, 18] ++ "You are logged in!".toByteArray.data.toList ++ [8, 2]],
    ⟨by decide, by simp, by decide⟩, by decide, by decide⟩

end Spawny.Client.Read
