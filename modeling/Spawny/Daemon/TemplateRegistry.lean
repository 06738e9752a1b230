import Mathlib.Analysis.SpecialFunctions.Log.Base
import Spawny.Lib.FreshKeys
import Spawny.Lib.Runs
import Spawny.Daemon.Server

/-! # templatereg.c: the registry of session templates

The array of templates and the counter for their ids. An id is the text `t` with the counter, printed
into a buffer whose size is computed from the counter.

* `snprintf_id`: the buffer is large enough for a counter below `2 ^ 31`;
* `findTemp_spec`: with distinct ids the lookup finds the template with the id;
* `array_unregister`: `template_unregister` takes out the template with the id and no other;
* `refines_step`: **the registry refines a map with fresh keys**;
* `template_spec`: what `templatereg.c` promises. -/

namespace Spawny.Daemon.TemplateRegistry

open Spawny.Lib.FreshKeys Spawny.Lib.Runs
open Spawny.Daemon.SessionMgt Spawny.Daemon.State Spawny.Daemon.Server

/-! ### The functions of templatereg.c -/

/-- `Template`, with its function and the data for it. -/
structure Template (κ δ : Type*) extends State.Template where
  cb : κ
  data : δ
  deriving DecidableEq, Repr

/-- The static variables: the array, `none` for `NULL`, and the counter. `ub` is set where C would use
the `NULL` pointer. -/
structure TemplateReg (κ δ : Type*) where
  array : Option (List (Template κ δ))
  counter : ℕ
  ub : Bool
  deriving DecidableEq, Repr

/-- A `counter`, an `unsigned int`, as an `int`. -/
def asInt (counter : ℕ) : ℤ := if counter < 2 ^ 31 then counter else counter - 2 ^ 32

/-- `INT_LENGTH`, with the floor of the exact logarithm. -/
def intLength (value : ℤ) : ℕ :=
  if value = 0 then 1 else Nat.log 10 value.natAbs + 1 + if value < 0 then 1 else 0

/-- The exact logarithm that `INT_LENGTH` rounds. -/
theorem intLength_log10 {n : ℕ} (hn : 0 < n) : (intLength n : ℤ) = ⌊Real.logb 10 n + 1⌋ := by
  have hlog : ⌊Real.logb 10 n⌋ = (Nat.log 10 n : ℤ) := by
    have h := Real.floor_logb_natCast (b := 10) (r := (n : ℝ)) (Nat.cast_nonneg n)
    rw [Int.log_natCast] at h
    exact h
  have hne : (n : ℤ) ≠ 0 := by omega
  have hpos : ¬ (n : ℤ) < 0 := by omega
  rw [Int.floor_add_one, hlog, intLength, if_neg hne, if_neg hpos, Int.natAbs_natCast]
  push_cast
  ring

variable {κ δ : Type*}

namespace TemplateReg

def start : TemplateReg κ δ := ⟨none, 0, false⟩

/-- The templates, none before `template_init`. -/
def templates (s : TemplateReg κ δ) : List (Template κ δ) := s.array.getD []

/-- `find_temp`: the index of the first template with the id. -/
def findTemp (id : String) (s : TemplateReg κ δ) : Option ℕ :=
  s.templates.findIdx? fun t => t.id == id

/-- `find_temp`: the template it points to. -/
def template (id : String) (s : TemplateReg κ δ) : Option (Template κ δ) :=
  (s.findTemp id).bind fun i => s.templates[i]?

/-- The text `snprintf` leaves in `buf`. -/
def idText (counter : ℕ) : String :=
  snprintf (intLength (asInt counter) + 2) ("t" ++ toString (asInt counter))

/-- `template_register`, with the id it returns; `none` is `NULL`. -/
def register (name icon : Option String) (type : String) (fireUp : Option κ) (data : δ)
    (s : TemplateReg κ δ) : TemplateReg κ δ × Option String :=
  match name, fireUp with
  | some name, some cb =>
    let temp : Template κ δ :=
      { id := idText s.counter, name := name, icon := icon, type := type, cb := cb, data := data }
    ({ s with array := some (s.templates ++ [temp]), counter := (s.counter + 1) % 2 ^ 32 },
      some temp.id)
  | _, _ => (s, none)

/-- `template_unregister`, with its return value. -/
def unregister (id : String) (s : TemplateReg κ δ) : TemplateReg κ δ × ℕ :=
  if s.array.isNone then ({ s with ub := true }, 0)
  else match s.findTemp id with
    | none => (s, 0)
    | some i => ({ s with array := some (s.templates.eraseIdx i) }, 1)

/-- `template_details_get` with places for all three: name, icon and type. -/
def detailsGet (id : String) (s : TemplateReg κ δ) : Option (String × Option String × String) :=
  (s.template id).map fun t => (t.name, t.icon, t.type)

/-- `template_run`: the call it makes. -/
def run (id : String) (s : TemplateReg κ δ) : Option (κ × δ) :=
  (s.template id).map fun t => (t.cb, t.data)

/-- `template_get`. -/
def get (s : TemplateReg κ δ) : List String := s.templates.map fun t => t.id

/-- `n` rounds of the loop of `template_shutdown`; `none` if it has not ended by then. -/
def shutdown : ℕ → TemplateReg κ δ → Option (TemplateReg κ δ)
  | 0, _ => none
  | n + 1, s =>
    match s.templates with
    | [] => some s
    | t :: _ => shutdown n (s.unregister t.id).1

end TemplateReg

/-! ### Ids -/

/-- **The buffer** holds the whole id. -/
theorem snprintf_id {n : ℕ} (hn : n < 2 ^ 31) : TemplateReg.idText n = "t" ++ toString n := by
  have hasInt : asInt n = n := by
    unfold asInt
    split_ifs
    rfl
  have hpos : 0 < intLength n := by
    unfold intLength
    split_ifs <;> omega
  have hlt : n < 10 ^ intLength n := by
    unfold intLength
    split_ifs with h0 hneg
    · omega
    · omega
    · rw [Int.natAbs_natCast]
      exact Nat.lt_pow_succ_log_self (by norm_num) n
  have hdigits : (toString n).length ≤ intLength n := (Nat.length_repr_le_iff hpos).mpr hlt
  have hlen : ("t" ++ toString n).toList.length = (toString n).length + 1 := by
    rw [String.toList_append, List.length_append, String.length_toList, String.length_toList,
      Nat.add_comm]
    rfl
  have htext : toString (n : ℤ) = toString n := rfl
  unfold TemplateReg.idText snprintf
  rw [hasInt, htext, List.take_of_length_le (by omega), String.ofList_toList]

/-- Ids for different values of the counter are different. -/
theorem id_injective {m n : ℕ} (h : "t" ++ toString m = "t" ++ toString n) : m = n := by
  have hlist := congrArg String.toList h
  rw [String.toList_append, String.toList_append] at hlist
  have hdigits : Nat.toDigits 10 m = Nat.toDigits 10 n := by
    rw [← Nat.toList_repr, ← Nat.toList_repr]
    exact List.append_cancel_left hlist
  rw [← Nat.ofDigitChars_ten_toDigits (n := m), hdigits, Nat.ofDigitChars_ten_toDigits]

/-! ### Lookups and removals -/

/-- The template found is the first one with the id. -/
theorem template_eq (id : String) (s : TemplateReg κ δ) :
    s.template id = s.templates.find? fun t => t.id == id := by
  rw [List.find?_eq_bind_findIdx?_getElem?]
  rfl

/-- With one template for each id, taking out the first with an id takes out all with it. -/
theorem eraseP_id {l : List (Template κ δ)} (h : (l.map fun t => t.id).Nodup) (id : String) :
    l.eraseP (fun t => t.id == id) = l.filter fun t => t.id ≠ id := by
  induction l with
  | nil => rfl
  | cons t l ih =>
    rw [List.map_cons, List.nodup_cons] at h
    rw [List.eraseP_cons, List.filter_cons]
    by_cases ht : t.id = id
    · have hrest : l.filter (fun t => t.id ≠ id) = l := by
        refine List.filter_eq_self.mpr fun t' ht' => ?_
        have hne : t'.id ≠ id := by
          rintro heq
          exact h.1 (List.mem_map.mpr ⟨t', ht', heq.trans ht.symm⟩)
        simpa using hne
      rw [hrest]
      simp [ht]
    · have hbeq : (t.id == id) = false := by simpa using ht
      rw [hbeq, ih h.2]
      simp [ht]

theorem unregister_array {s : TemplateReg κ δ} (h : s.array.isSome = true)
    (hid : (s.templates.map fun t => t.id).Nodup) (id : String) :
    (s.unregister id).1 = { s with array := some (s.templates.filter fun t => t.id ≠ id) } := by
  have hsome : s.array = some s.templates := by
    obtain ⟨l, hl⟩ := Option.isSome_iff_exists.mp h
    rw [TemplateReg.templates, hl, Option.getD_some]
  have hnone : s.array.isNone = false := by
    rw [hsome]
    rfl
  rw [← eraseP_id hid, List.eraseP_eq_eraseIdx]
  unfold TemplateReg.unregister TemplateReg.findTemp
  rw [hnone]
  cases s.templates.findIdx? fun t => t.id == id with
  | none => simp [← hsome]
  | some i => rfl

theorem register_accepted {name : String} {cb : κ} (icon : Option String) (type : String) (data : δ)
    (s : TemplateReg κ δ) :
    s.register (some name) icon type (some cb) data =
      ({ s with array := some (s.templates ++
                  [⟨⟨TemplateReg.idText s.counter, name, icon, type⟩, cb, data⟩])
                counter := (s.counter + 1) % 2 ^ 32 },
        some (TemplateReg.idText s.counter)) := rfl

/-- **A registration without a name or a function** is rejected. -/
theorem register_rejected {name : Option String} {fireUp : Option κ}
    (h : name = none ∨ fireUp = none) (icon : Option String) (type : String) (data : δ)
    (s : TemplateReg κ δ) : s.register name icon type fireUp data = (s, none) := by
  rcases h with rfl | rfl
  · rfl
  · cases name <;> rfl

/-! ### Runs -/

/-- The arguments of `template_register`. -/
structure Registration (κ δ : Type*) where
  name : Option String
  icon : Option String
  type : String
  fireUp : Option κ
  data : δ
  deriving DecidableEq, Repr

inductive TemplateEvent (κ δ : Type*)
  | register (r : Registration κ δ)
  | unregister (id : String)
  deriving DecidableEq, Repr

/-- The registration has a name and a function. -/
def TemplateEvent.accepted : TemplateEvent κ δ → Bool
  | register r => r.name.isSome && r.fireUp.isSome
  | unregister _ => false

/-- The template that a registration makes. -/
def Registration.template (id : String) (r : Registration κ δ) : Option (Template κ δ) :=
  match r.name, r.fireUp with
  | some name, some cb => some ⟨⟨id, name, r.icon, r.type⟩, cb, r.data⟩
  | _, _ => none

/-- The registry, and what was done: an id was returned for a template, or an id was given to
`template_unregister`. -/
structure TemplateRun (κ δ : Type*) where
  reg : TemplateReg κ δ
  log : List (Op String (Template κ δ))
  deriving DecidableEq, Repr

def TemplateRun.start : TemplateRun κ δ := ⟨TemplateReg.start, []⟩

def TemplateRun.step (s : TemplateRun κ δ) : TemplateEvent κ δ → TemplateRun κ δ
  | .register r =>
    let ret := s.reg.register r.name r.icon r.type r.fireUp r.data
    { reg := ret.1
      log := s.log ++ ((ret.2.bind r.template).toList.map fun t => .insert t.id t) }
  | .unregister id =>
    { reg := (s.reg.unregister id).1, log := s.log ++ [.erase id] }

/-! ### The registry as a map -/

/-- The registry holds the templates of the map, and the next id is fresh. -/
structure Refines (s : TemplateReg κ δ) (m : FreshMap String (Template κ δ)) : Prop where
  array : s.array = some (m.bindings.map Prod.snd)
  named : ∀ b ∈ m.bindings, b.2.id = b.1
  issued : m.issued = (List.range s.counter).map fun n => "t" ++ toString n
  defined : s.ub = false

theorem Refines.templates {s : TemplateReg κ δ} {m : FreshMap String (Template κ δ)}
    (h : Refines s m) : s.templates = m.bindings.map Prod.snd := by
  rw [TemplateReg.templates, h.array, Option.getD_some]

theorem Refines.get {s : TemplateReg κ δ} {m : FreshMap String (Template κ δ)}
    (h : Refines s m) : s.get = m.keys := by
  rw [TemplateReg.get, h.templates, FreshMap.keys, List.map_map]
  exact List.map_congr_left h.named

/-- **The lookup** is that of the map. -/
theorem Refines.template {s : TemplateReg κ δ} {m : FreshMap String (Template κ δ)}
    (h : Refines s m) (id : String) : s.template id = m.get? id := by
  rw [template_eq, h.templates, FreshMap.get?, List.find?_map]
  refine congrArg (Option.map Prod.snd) (List.find?_congr fun b hb => ?_)
  rw [Function.comp_apply, h.named b hb]
  rfl

theorem Refines.nodup {s : TemplateReg κ δ} {m : FreshMap String (Template κ δ)}
    (h : Refines s m) : (s.templates.map fun t => t.id).Nodup := by
  have hget := h.get
  rw [TemplateReg.get] at hget
  rw [hget]
  exact m.keys_nodup

theorem Refines.fresh {s : TemplateReg κ δ} {m : FreshMap String (Template κ δ)}
    (h : Refines s m) : "t" ++ toString s.counter ∉ m.issued := by
  rw [h.issued]
  intro hmem
  obtain ⟨n, hn, hid⟩ := List.mem_map.mp hmem
  have hlt := List.mem_range.mp hn
  have := id_injective hid
  omega

/-- Registering inserts a fresh key. -/
theorem Refines.register {s : TemplateReg κ δ} {m : FreshMap String (Template κ δ)}
    (h : Refines s m) (hcount : s.counter < 2 ^ 31) (t : Template κ δ)
    (hid : t.id = "t" ++ toString s.counter) (hfresh : t.id ∉ m.issued) :
    Refines { s with array := some (s.templates ++ [t]), counter := (s.counter + 1) % 2 ^ 32 }
      (m.insert t.id t hfresh) where
  array := by
    rw [h.templates]
    simp [FreshMap.insert]
  named b hb := by
    rcases List.mem_append.mp hb with hb | hb
    · exact h.named b hb
    · rw [List.mem_singleton.mp hb]
  issued := by
    have hwrap : (s.counter + 1) % 2 ^ 32 = s.counter + 1 := Nat.mod_eq_of_lt (by omega)
    rw [hwrap, List.range_succ, List.map_append, ← h.issued]
    exact congrArg (fun id => m.issued ++ [id]) hid
  defined := h.defined

/-- Unregistering erases the key. -/
theorem Refines.unregister {s : TemplateReg κ δ} {m : FreshMap String (Template κ δ)}
    (h : Refines s m) (id : String) : Refines (s.unregister id).1 (m.erase id) := by
  have hsome : s.array.isSome = true := by rw [h.array, Option.isSome_some]
  rw [unregister_array hsome h.nodup]
  refine ⟨?_, fun b hb => h.named b (List.mem_filter.mp hb).1, h.issued, h.defined⟩
  have hfilter : m.bindings.filter ((fun t : Template κ δ => decide (t.id ≠ id)) ∘ Prod.snd) =
      m.bindings.filter fun b => b.1 ≠ id := by
    refine List.filter_congr fun b hb => ?_
    rw [Function.comp_apply, h.named b hb]
  rw [h.templates, List.filter_map, hfilter]
  rfl

/-- A state of a run, with the map its history leads to. -/
def Good (s : TemplateRun κ δ) : Prop := ∃ m, Replays s.log m ∧ Refines s.reg m

/-- **A step of the registry** is an operation of the map. -/
theorem good_step {s : TemplateRun κ δ} (hs : Good s) (hcount : s.reg.counter < 2 ^ 31)
    (e : TemplateEvent κ δ) : Good (s.step e) ∧
      (s.step e).reg.counter = s.reg.counter + if e.accepted then 1 else 0 := by
  obtain ⟨m, hlog, hm⟩ := hs
  cases e with
  | register r =>
    obtain ⟨name, icon, type, fireUp, data⟩ := r
    by_cases hacc : name = none ∨ fireUp = none
    · have hret := register_rejected hacc icon type data s.reg
      have hsame : s.step (.register ⟨name, icon, type, fireUp, data⟩) = s := by
        unfold TemplateRun.step
        dsimp only
        rw [hret]
        simp
      have hnot : TemplateEvent.accepted (.register ⟨name, icon, type, fireUp, data⟩) = false := by
        rcases hacc with rfl | rfl <;> simp [TemplateEvent.accepted]
      rw [hsame, hnot]
      exact ⟨⟨m, hlog, hm⟩, rfl⟩
    · rw [not_or] at hacc
      obtain ⟨name, rfl⟩ := Option.ne_none_iff_exists'.mp hacc.1
      obtain ⟨cb, rfl⟩ := Option.ne_none_iff_exists'.mp hacc.2
      have hid := snprintf_id hcount
      have hfresh := hm.fresh
      rw [← hid] at hfresh
      have hwrap : (s.reg.counter + 1) % 2 ^ 32 = s.reg.counter + 1 := Nat.mod_eq_of_lt (by omega)
      set t : Template κ δ := ⟨⟨TemplateReg.idText s.reg.counter, name, icon, type⟩, cb, data⟩
      exact ⟨⟨m.insert t.id t hfresh, hlog.insert hfresh, hm.register hcount t hid hfresh⟩, hwrap⟩
  | unregister id =>
    have hsome : s.reg.array.isSome = true := by rw [hm.array, Option.isSome_some]
    have hcounter : (s.reg.unregister id).1.counter = s.reg.counter := by
      rw [unregister_array hsome hm.nodup]
    exact ⟨⟨m.erase id, hlog.erase id, hm.unregister id⟩, hcounter⟩

/-- **Runs** that stay below the limit of the counter. -/
theorem good_run : ∀ (es : List (TemplateEvent κ δ)) {s : TemplateRun κ δ}, Good s →
    s.reg.counter + es.countP TemplateEvent.accepted < 2 ^ 31 → Good (run TemplateRun.step s es)
  | [], _, hs, _ => hs
  | e :: es, s, hs, hcount => by
    rw [List.countP_cons] at hcount
    obtain ⟨hgood, hcounter⟩ := good_step hs (by omega) e
    exact good_run es hgood (by omega)

/-- The first registration makes the array. -/
theorem good_first {e : TemplateEvent κ δ} (h : e.accepted = true) :
    Good (TemplateRun.start.step e) ∧ (TemplateRun.start.step e).reg.counter = 1 := by
  obtain ⟨⟨name, icon, type, fireUp, data⟩⟩ | id := e
  · obtain ⟨hname, hcb⟩ := Bool.and_eq_true_iff.mp h
    obtain ⟨name, rfl⟩ := Option.isSome_iff_exists.mp hname
    obtain ⟨cb, rfl⟩ := Option.isSome_iff_exists.mp hcb
    -- the array before `template_init` is as good as an empty one
    have hempty : Good (⟨⟨some [], 0, false⟩, []⟩ : TemplateRun κ δ) :=
      ⟨FreshMap.empty, Replays.nil, ⟨rfl, by simp [FreshMap.empty], rfl, rfl⟩⟩
    exact good_step hempty (by norm_num) (.register ⟨some name, icon, type, some cb, data⟩)
  · cases h

/-! ### What templatereg.c promises -/

/-- The loop of `template_shutdown` ends after one round for each template. -/
theorem shutdown_ends {s : TemplateReg κ δ} (h : s.array.isSome = true)
    (hid : (s.templates.map fun t => t.id).Nodup) : ∃ s' : TemplateReg κ δ, s'.templates = [] ∧
      ∀ n, s.templates.length < n → s.shutdown n = some s' := by
  generalize hlen : s.templates.length = len
  induction len generalizing s with
  | zero =>
    have hnil := List.length_eq_zero_iff.mp hlen
    refine ⟨s, hnil, fun n hn => ?_⟩
    obtain ⟨n, rfl⟩ := Nat.exists_eq_add_one_of_ne_zero (Nat.ne_of_gt hn)
    rw [TemplateReg.shutdown, hnil]
  | succ len ih =>
    obtain ⟨t, l, hl⟩ := List.exists_cons_of_length_eq_add_one hlen
    rw [hl, List.map_cons, List.nodup_cons] at hid
    have hun := unregister_array h (by rw [hl]; exact List.nodup_cons.mpr hid) t.id
    have htail : (s.unregister t.id).1.templates = l := by
      have hrest : l.filter (fun t' => t'.id ≠ t.id) = l := by
        refine List.filter_eq_self.mpr fun t' ht' => ?_
        have hne : t'.id ≠ t.id := by
          intro heq
          exact hid.1 (List.mem_map.mpr ⟨t', ht', heq⟩)
        simpa using hne
      rw [hun, TemplateReg.templates, Option.getD_some, hl, List.filter_cons, hrest]
      simp
    have hsome : (s.unregister t.id).1.array.isSome = true := by rw [hun]; rfl
    obtain ⟨s', hend, hrounds⟩ := ih hsome (by rw [htail]; exact hid.2) (by
      rw [htail]
      rw [hl, List.length_cons] at hlen
      omega)
    refine ⟨s', hend, fun n hn => ?_⟩
    obtain ⟨n, rfl⟩ := Nat.exists_eq_add_one_of_ne_zero (Nat.ne_of_gt (Nat.zero_lt_of_lt hn))
    rw [TemplateReg.shutdown, hl]
    exact hrounds n (by omega)

/-- The template `t` was registered under `id`, and the id was not unregistered since. -/
def Registered (log : List (Op String (Template κ δ))) (id : String) (t : Template κ δ) : Prop :=
  ∃ pre post, log = pre ++ .insert id t :: post ∧ .erase id ∉ post

/-- **What templatereg.c promises.** -/
structure TemplateSpec (s : TemplateRun κ δ) : Prop where
  /-- no function meets the `NULL` pointer -/
  defined : s.reg.array.isSome = true ∧ s.reg.ub = false
  /-- no id is returned twice -/
  fresh : (inserted s.log).Nodup
  /-- and none is cut -/
  whole : inserted s.log = (List.range s.reg.counter).map fun n => "t" ++ toString n
  details : ∀ id out, s.reg.detailsGet id = some out ↔
    ∃ t, Registered s.log id t ∧ out = (t.name, t.icon, t.type)
  ran : ∀ id call, s.reg.run id = some call ↔ ∃ t, Registered s.log id t ∧ call = (t.cb, t.data)
  /-- the live ids, in the order of registration -/
  listed : s.reg.get = kept s.log
  /-- `template_unregister` takes out one template, and tells whether there was one -/
  removed : ∀ id, (s.reg.unregister id).1.get = s.reg.get.filter (fun id' => id' ≠ id) ∧
    ((s.reg.unregister id).2 = 1 ↔ id ∈ s.reg.get) ∧
    ∀ id', id' ≠ id → (s.reg.unregister id).1.template id' = s.reg.template id'
  rejected : ∀ name icon type fireUp data, name = none ∨ fireUp = none →
    s.reg.register name icon type fireUp data = (s.reg, none)
  shutdown : ∃ s' : TemplateReg κ δ, s'.templates = [] ∧ ∃ n, ∀ m, n < m → s.reg.shutdown m = some s'

theorem unregister_ret {s : TemplateReg κ δ} (h : s.array.isSome = true) (id : String) :
    (s.unregister id).2 = 1 ↔ id ∈ s.get := by
  have hnone : s.array.isNone = false := by
    obtain ⟨l, hl⟩ := Option.isSome_iff_exists.mp h
    rw [hl]
    rfl
  unfold TemplateReg.unregister
  rw [hnone]
  cases hf : s.findTemp id with
  | none =>
    have hall := List.findIdx?_eq_none_iff.mp hf
    have hnot : id ∉ s.get := by
      intro hmem
      obtain ⟨t, ht, hid⟩ := List.mem_map.mp hmem
      have := hall t ht
      simp [hid] at this
    simp [hnot]
  | some i =>
    obtain ⟨hlt, hi, -⟩ := List.findIdx?_eq_some_iff_getElem.mp hf
    have hmem : id ∈ s.get :=
      List.mem_map.mpr ⟨s.templates[i], List.getElem_mem hlt, by simpa using hi⟩
    simp [hmem]

/-- **The template registry** behaves as a map with fresh keys in the order of registration, in every
run that begins with a registration and has fewer than `2 ^ 31` of them. -/
theorem template_spec (first : TemplateEvent κ δ) (hfirst : first.accepted = true)
    (es : List (TemplateEvent κ δ)) (hcount : (first :: es).countP TemplateEvent.accepted < 2 ^ 31) :
    TemplateSpec (run TemplateRun.step TemplateRun.start (first :: es)) := by
  obtain ⟨hgood, hone⟩ := good_first hfirst
  rw [List.countP_cons, if_pos hfirst] at hcount
  obtain ⟨m, hlog, hm⟩ := good_run es hgood (by omega)
  rw [run_cons]
  set s := run TemplateRun.step (TemplateRun.start.step first) es
  have hsome : s.reg.array.isSome = true := by rw [hm.array, Option.isSome_some]
  have hfind : ∀ id t, s.reg.template id = some t ↔ Registered s.log id t := by
    intro id t
    rw [hm.template]
    exact hlog.get?_iff id t
  refine ⟨⟨hsome, hm.defined⟩, ?_, ?_, fun id out => ?_, fun id call => ?_, ?_, fun id => ?_,
    fun name icon type fireUp data h => register_rejected h icon type data s.reg, ?_⟩
  · rw [← hlog.issued_eq]
    exact m.nodup
  · rw [← hlog.issued_eq]
    exact hm.issued
  · rw [TemplateReg.detailsGet, Option.map_eq_some_iff]
    exact exists_congr fun t => and_congr (hfind id t) eq_comm
  · rw [TemplateReg.run, Option.map_eq_some_iff]
    exact exists_congr fun t => and_congr (hfind id t) eq_comm
  · rw [hm.get, hlog.keys_eq]
  · have hm' := hm.unregister id
    refine ⟨?_, unregister_ret hsome id, fun id' hne => ?_⟩
    · rw [hm'.get, hm.get, FreshMap.keys_erase]
    · rw [hm'.template, hm.template, FreshMap.get?_erase, if_neg hne]
  · obtain ⟨s', hend, hrounds⟩ := shutdown_ends hsome hm.nodup
    exact ⟨s', hend, s.reg.templates.length, hrounds⟩

/-- Two templates are registered and the first is taken out before a third one is registered; a
registration without a name is rejected in between. -/
theorem template_spec_three :
    let reg (name : Option String) : TemplateEvent ℕ ℕ := .register ⟨name, none, "tty", some 0, 0⟩
    TemplateSpec (run TemplateRun.step TemplateRun.start
      [reg (some "a"), reg (some "b"), .unregister "t0", reg none, reg (some "c")]) :=
  template_spec _ rfl _ (by decide)

/-- `_client_data` looks up the template of a login as `template_details_get` does. -/
theorem templateSettings_eq {s : TemplateReg κ δ} {w : World}
    (h : w.templates = s.templates.map Template.toTemplate) (id : String) (junk : XdgSettings) :
    templateSettings id junk w = (s.detailsGet id).elim junk fun d =>
      { junk with sessionDesktop := some d.1, sessionType := some d.2.2 } := by
  unfold templateSettings TemplateReg.detailsGet
  have hfind : w.templates.find? (fun tp => tp.id == id) =
      (s.templates.find? fun t => t.id == id).map Template.toTemplate := by
    rw [h, List.find?_map]
    rfl
  rw [hfind, template_eq]
  cases s.templates.find? fun t => t.id == id <;> rfl

end Spawny.Daemon.TemplateRegistry
