import Spawny.Daemon.SessionMgt

/-! # What the results of session_details depend on

`GET_FIELD` assigns its variable on the four error codes it lists; on any other code the variable
holds what the call has stored, or what it held before. The locals of `session_details` are not
initialized, and neither is the variable that `_load_sessions` passes for the user id.

* `getField_eq`: `GET_FIELD` as the code it looks at and the value it leaves;
* `call_eq`: the results, if no call says that the session is missing;
* `ofAnswers_iff`: **when the results are a function of the answers**, in two runs with the same
  answers. -/

namespace Spawny.Daemon.SessionDetails

open Spawny.Daemon.SessionMgt

variable {α : Type} {sd : SdLogin} {handle : Option String}

/-! ### GET_FIELD -/

/-- The codes on which the macro assigns the variable. -/
def Listed (ret : ℤ) : Prop := ret = -ENODATA ∨ ret = -EINVAL ∨ ret = -ENOMEM

instance (ret : ℤ) : Decidable (Listed ret) :=
  inferInstanceAs (Decidable (ret = -ENODATA ∨ ret = -EINVAL ∨ ret = -ENOMEM))

/-- The variable is assigned, by the call or by the macro. -/
def Assigns (ans : SdAnswer α) : Prop := Listed ans.ret ∨ ans.stored.isSome = true

instance (ans : SdAnswer α) : Decidable (Assigns ans) :=
  inferInstanceAs (Decidable (Listed ans.ret ∨ ans.stored.isSome = true))

/-- What the variable holds behind `GET_FIELD`. -/
def left (ans : SdAnswer α) (old errval : α) : α :=
  if Listed ans.ret then errval else ans.stored.getD old

theorem getField_eq {ans : SdAnswer α} (h : ans.ret ≠ - ENXIO) (old errval : α) :
    getField ans old errval = some (ans.ret, left ans old errval) := by
  unfold getField left
  rw [if_neg h]
  split_ifs with hlisted hl hl
  · rfl
  · exact absurd hlisted hl
  · exact absurd hl hlisted
  · rfl

theorem left_of_assigns {ans : SdAnswer α} (h : Assigns ans) (old old' errval : α) :
    left ans old errval = left ans old' errval := by
  unfold left
  split_ifs with hl
  · rfl
  · obtain ⟨v, hv⟩ := Option.isSome_iff_exists.mp (h.resolve_left hl)
    rw [hv, Option.getD_some, Option.getD_some]

theorem left_of_not {ans : SdAnswer α} (h : ¬Assigns ans) (old errval : α) :
    left ans old errval = old := by
  obtain ⟨hl, hstored⟩ := not_or.mp h
  unfold left
  rw [if_neg hl, Option.not_isSome_iff_eq_none.mp hstored, Option.getD_none]

/-! ### session_details -/

/-- The places that the caller gives for results; `NULL` for the others. -/
structure Places where
  uid : Bool
  vtnr : Bool
  name : Bool
  deriving DecidableEq, Repr

/-- What `session_details` leaves at the places, and the strings it frees. -/
structure Results where
  vtnr : Option ℤ
  uid : Option ℕ
  name : Option String
  freed : List String
  deriving DecidableEq, Repr

def Places.results (p : Places) (d : Details) : Results where
  vtnr := if p.vtnr then some d.vtnr else none
  uid := d.uid
  name := if p.name then some d.name else none
  freed := d.freed

/-- A call of `session_details`; `old` is what the place for the user id holds before. -/
def call (p : Places) (sd : SdLogin) (junk : Locals) (old : ℕ) (handle : Option String) :
    Option Results :=
  (sessionDetails sd junk handle (if p.uid then some old else none)).map p.results

/-- A call that is made says that the session does not exist. -/
def Missing (p : Places) (sd : SdLogin) (handle : Option String) : Prop :=
  (sd.vt handle).ret = - ENXIO ∨ p.uid = true ∧ (sd.uid handle).ret = - ENXIO ∨
    (sd.desktop handle).ret = - ENXIO ∨ (sd.type handle).ret = - ENXIO

/-- `GET_FIELD` for the user id, if there is a place for it. -/
def uidField (p : Places) (sd : SdLogin) (old : ℕ) (handle : Option String) : Option (Option ℕ) :=
  if p.uid then (getField (sd.uid handle) old 0).map fun r => some r.2 else some none

/-- The calls of `session_details`, one after the other. -/
theorem call_bind (p : Places) (sd : SdLogin) (junk : Locals) (old : ℕ) (handle : Option String) :
    call p sd junk old handle =
      (getField (sd.vt handle) junk.vtnrRaw 0).bind fun vt =>
        (uidField p sd old handle).bind fun uid =>
          (getField (sd.desktop handle) junk.tmpDesktop none).bind fun desktop =>
            (getField (sd.type handle) junk.tmpType none).bind fun type =>
              some (p.results
                { vtnr := if vt.1 < 0 then -1 else vt.2
                  uid := uid
                  name := sessionName junk.maxName type.2 desktop.2
                  freed := desktop.2.toList ++ type.2.toList }) := by
  unfold call sessionDetails uidField
  cases getField (sd.vt handle) junk.vtnrRaw 0 with
  | none => rfl
  | some vt =>
    have htail : ∀ uid : Option ℕ,
        (((getField (sd.desktop handle) junk.tmpDesktop none).bind fun desktop =>
          (getField (sd.type handle) junk.tmpType none).bind fun type =>
            some (⟨if vt.1 < 0 then -1 else vt.2, uid, sessionName junk.maxName type.2 desktop.2,
              desktop.2.toList ++ type.2.toList⟩ : Details)).map p.results) =
        (getField (sd.desktop handle) junk.tmpDesktop none).bind fun desktop =>
          (getField (sd.type handle) junk.tmpType none).bind fun type =>
            some (p.results ⟨if vt.1 < 0 then -1 else vt.2, uid,
              sessionName junk.maxName type.2 desktop.2, desktop.2.toList ++ type.2.toList⟩) := by
      intro uid
      rw [Option.map_bind]
      refine congrArg _ (funext fun desktop => ?_)
      exact Option.map_bind
    cases p.uid with
    | false => exact htail none
    | true =>
      simp only [if_true]
      cases getField (sd.uid handle) old 0 with
      | none => rfl
      | some uid => exact htail (some uid.2)

theorem call_missing {p : Places} (h : Missing p sd handle) (junk : Locals) (old : ℕ) :
    call p sd junk old handle = none := by
  rw [call_bind]
  rcases h with h | ⟨hp, h⟩ | h | h
  · rw [getField_eq_none.mpr h, Option.bind_none]
  · have huid : uidField p sd old handle = none := by
      rw [uidField, if_pos hp, getField_eq_none.mpr h]
      rfl
    simp only [huid, Option.bind_none, Option.bind_fun_none]
  · simp only [getField_eq_none.mpr h, Option.bind_none, Option.bind_fun_none]
  · simp only [getField_eq_none.mpr h, Option.bind_none, Option.bind_fun_none]

/-- The terminal that is left at its place. -/
def vtnrOf (sd : SdLogin) (junk : Locals) (handle : Option String) : ℤ :=
  if (sd.vt handle).ret < 0 then -1 else (left (sd.vt handle) junk.vtnrRaw 0 : ℕ)

/-- **The results of `session_details`**, if no call says that the session is missing. -/
theorem call_eq {p : Places} (h : ¬Missing p sd handle) (junk : Locals) (old : ℕ) :
    call p sd junk old handle = some
      { vtnr := if p.vtnr then some (vtnrOf sd junk handle) else none
        uid := if p.uid then some (left (sd.uid handle) old 0) else none
        name := if p.name then some (sessionName junk.maxName
          (left (sd.type handle) junk.tmpType none)
          (left (sd.desktop handle) junk.tmpDesktop none)) else none
        freed := (left (sd.desktop handle) junk.tmpDesktop none).toList ++
          (left (sd.type handle) junk.tmpType none).toList } := by
  obtain ⟨hvt, huid, hdesktop, htype⟩ :
      (sd.vt handle).ret ≠ - ENXIO ∧ (p.uid = true → (sd.uid handle).ret ≠ - ENXIO) ∧
        (sd.desktop handle).ret ≠ - ENXIO ∧ (sd.type handle).ret ≠ - ENXIO := by
    unfold Missing at h
    tauto
  have hfield : uidField p sd old handle =
      some (if p.uid then some (left (sd.uid handle) old 0) else none) := by
    unfold uidField
    split_ifs with hp
    · rw [getField_eq (huid hp)]
      rfl
    · rfl
  rw [call_bind, getField_eq hvt, hfield, getField_eq hdesktop, getField_eq htype]
  rfl

/-! ### Two runs -/

/-- What the call offers for a name. -/
def given (ans : SdAnswer (Option String)) : Option String := left ans none none

/-- The name that the two strings make; empty if there is none of them. -/
def nameOf (type desktop : Option String) : String := sessionName "" type desktop

/-- A string that one of the calls returned. -/
def Returned (sd : SdLogin) (handle : Option String) (s : String) : Prop :=
  (sd.desktop handle).stored = some (some s) ∨ (sd.type handle).stored = some (some s)

/-- **The results are a function of the answers**: they are the same whatever the variables held
before, only strings that were returned are freed, and the name is the right one. -/
structure OfAnswers (p : Places) (sd : SdLogin) (handle : Option String) : Prop where
  same : ∀ (junk junk' : Locals) (old old' : ℕ),
    call p sd junk old handle = call p sd junk' old' handle
  freed : ∀ (junk : Locals) (old : ℕ) (r : Results), call p sd junk old handle = some r →
    ∀ s ∈ r.freed, Returned sd handle s
  name : ∀ (junk : Locals) (old : ℕ) (r : Results) (s : String),
    call p sd junk old handle = some r → r.name = some s →
      s = nameOf (given (sd.type handle)) (given (sd.desktop handle))

/-- Every variable that is looked at is assigned, and there is something to make a name of. -/
structure Assigned (p : Places) (sd : SdLogin) (handle : Option String) : Prop where
  vtnr : p.vtnr = true → (sd.vt handle).ret < 0 ∨ Assigns (sd.vt handle)
  uid : p.uid = true → Assigns (sd.uid handle)
  desktop : Assigns (sd.desktop handle)
  type : Assigns (sd.type handle)
  name : p.name = true → given (sd.type handle) ≠ none ∨ given (sd.desktop handle) ≠ none

theorem returned_of_left {ans : SdAnswer (Option String)} (h : Assigns ans) {old : Option String}
    {s : String} (hs : left ans old none = some s) : ans.stored = some (some s) := by
  unfold left at hs
  split_ifs at hs with hl
  obtain ⟨v, hv⟩ := Option.isSome_iff_exists.mp (h.resolve_left hl)
  rw [hv, Option.getD_some] at hs
  rw [hv, hs]

theorem sessionName_junk {type desktop : Option String} (h : type ≠ none ∨ desktop ≠ none)
    (junk junk' : String) : sessionName junk type desktop = sessionName junk' type desktop := by
  rcases type with _ | t
  · rcases desktop with _ | d
    · simp at h
    · rfl
  · rcases desktop with _ | d <;> rfl

theorem OfAnswers.assigned {p : Places} (h : OfAnswers p sd handle) (hm : ¬Missing p sd handle) :
    Assigned p sd handle := by
  have hres : ∀ (junk junk' : Locals) (old old' : ℕ), _ = _ := fun junk junk' old old' =>
    Option.some.inj ((call_eq hm junk old).symm.trans ((h.same junk junk' old old').trans
      (call_eq hm junk' old')))
  have hdesktop : Assigns (sd.desktop handle) := by
    by_contra hno
    have hfreed := congrArg Results.freed
      (hres ⟨0, none, none, ""⟩ ⟨0, some "desktop", none, ""⟩ 0 0)
    simp only [left_of_not hno] at hfreed
    have hlen := congrArg List.length hfreed
    simp at hlen
  have htype : Assigns (sd.type handle) := by
    by_contra hno
    have hfreed := congrArg Results.freed
      (hres ⟨0, none, none, ""⟩ ⟨0, none, some "type", ""⟩ 0 0)
    simp only [left_of_not hno] at hfreed
    have hlen := congrArg List.length hfreed
    simp at hlen
  refine ⟨fun hp => ?_, fun hp => ?_, hdesktop, htype, fun hp => ?_⟩
  · by_contra hno
    obtain ⟨hret, hassigns⟩ := not_or.mp hno
    have hvtnr := congrArg Results.vtnr (hres ⟨0, none, none, ""⟩ ⟨1, none, none, ""⟩ 0 0)
    simp [vtnrOf, hp, hret, left_of_not hassigns] at hvtnr
  · by_contra hno
    have huid := congrArg Results.uid (hres ⟨0, none, none, ""⟩ ⟨0, none, none, ""⟩ 0 1)
    simp [hp, left_of_not hno] at huid
  · by_contra hno
    obtain ⟨hnotype, hnodesktop⟩ := not_or.mp hno
    have hname := congrArg Results.name (hres ⟨0, none, none, ""⟩ ⟨0, none, none, "x"⟩ 0 0)
    unfold given at hnotype hnodesktop
    rw [not_not] at hnotype hnodesktop
    simp [hp, hnotype, hnodesktop, sessionName] at hname

theorem Assigned.ofAnswers {p : Places} (h : Assigned p sd handle) (hm : ¬Missing p sd handle) :
    OfAnswers p sd handle := by
  have htype : ∀ old, left (sd.type handle) old none = given (sd.type handle) :=
    fun old => left_of_assigns h.type old none none
  have hdesktop : ∀ old, left (sd.desktop handle) old none = given (sd.desktop handle) :=
    fun old => left_of_assigns h.desktop old none none
  refine ⟨fun junk junk' old old' => ?_, fun junk old r hr s hs => ?_,
    fun junk old r s hr hs => ?_⟩
  · rw [call_eq hm, call_eq hm, htype, htype, hdesktop, hdesktop]
    have hvtnr : (if p.vtnr then some (vtnrOf sd junk handle) else none) =
        if p.vtnr then some (vtnrOf sd junk' handle) else none := by
      unfold vtnrOf
      split_ifs with hp hret
      · rfl
      · rw [left_of_assigns ((h.vtnr hp).resolve_left hret) junk.vtnrRaw junk'.vtnrRaw]
      · rfl
    have huid : (if p.uid then some (left (sd.uid handle) old 0) else none) =
        if p.uid then some (left (sd.uid handle) old' 0) else none := by
      split_ifs with hp
      · rw [left_of_assigns (h.uid hp)]
      · rfl
    have hname : (if p.name then some (sessionName junk.maxName (given (sd.type handle))
          (given (sd.desktop handle))) else none) =
        if p.name then some (sessionName junk'.maxName (given (sd.type handle))
          (given (sd.desktop handle))) else none := by
      split_ifs with hp
      · rw [sessionName_junk (h.name hp)]
      · rfl
    rw [hvtnr, huid, hname]
  · rw [call_eq hm] at hr
    obtain rfl := Option.some.inj hr
    rcases List.mem_append.mp hs with hs | hs
    · exact Or.inl (returned_of_left h.desktop (Option.mem_toList.mp hs))
    · exact Or.inr (returned_of_left h.type (Option.mem_toList.mp hs))
  · rw [call_eq hm] at hr
    obtain rfl := Option.some.inj hr
    dsimp only at hs
    split_ifs at hs with hp
    rw [← Option.some.inj hs, htype, hdesktop]
    exact sessionName_junk (h.name hp) _ _

/-- **When the results of `session_details` are a function of the answers**: a call says that the
session is missing, or every variable is assigned and there is something to make a name of. -/
theorem ofAnswers_iff (p : Places) (sd : SdLogin) (handle : Option String) :
    OfAnswers p sd handle ↔ Missing p sd handle ∨ Assigned p sd handle := by
  by_cases hm : Missing p sd handle
  · refine iff_of_true ⟨fun junk junk' old old' => ?_, fun junk old r hr => ?_,
      fun junk old r s hr => ?_⟩ (Or.inl hm)
    · rw [call_missing hm, call_missing hm]
    · rw [call_missing hm] at hr
      cases hr
    · rw [call_missing hm] at hr
      cases hr
  · constructor
    · exact fun h => Or.inr (h.assigned hm)
    · rintro (h | h)
      · exact absurd h hm
      · exact h.ofAnswers hm

/-- What `_load_sessions` asks for. -/
def loadSessions : Places := ⟨true, false, true⟩

/-- A session of which logind does not tell the desktop, since it has no access to it. -/
def denied : SdLogin :=
  { SdLogin.empty with
    vt := fun _ => ⟨-ENODATA, none⟩
    uid := fun _ => ⟨0, some 1000⟩
    desktop := fun _ => ⟨-13, none⟩
    type := fun _ => ⟨0, some (some "tty")⟩ }

/-- **What the stack holds is freed and sent.** -/
theorem junk_freed :
    call loadSessions denied ⟨0, some "junk", none, ""⟩ 0 (some "c1") =
        some ⟨none, some 1000, some "tty - junk", ["junk", "tty"]⟩ ∧
      call loadSessions denied ⟨0, none, none, ""⟩ 0 (some "c1") =
        some ⟨none, some 1000, some "tty", ["tty"]⟩ ∧
      ¬OfAnswers loadSessions denied (some "c1") := by
  have hjunk : call loadSessions denied ⟨0, some "junk", none, ""⟩ 0 (some "c1") =
      some ⟨none, some 1000, some "tty - junk", ["junk", "tty"]⟩ := by decide
  have hnone : call loadSessions denied ⟨0, none, none, ""⟩ 0 (some "c1") =
      some ⟨none, some 1000, some "tty", ["tty"]⟩ := by decide
  refine ⟨hjunk, hnone, fun h => ?_⟩
  have hsame := h.same ⟨0, some "junk", none, ""⟩ ⟨0, none, none, ""⟩ 0 0
  rw [hjunk, hnone] at hsame
  revert hsame
  decide

end Spawny.Daemon.SessionDetails
