import Mathlib.Data.Int.Notation
import Mathlib.Data.List.Indexes
import Spawny.Lib.FlatArray
import Spawny.Client.Read

/-! # libsp_client/client.c: the arrays of the context

`_fill_array` is one routine for five arrays of structs: it frees the strings of the old elements,
resizes the memory, zeroes what is new and converts element after element, with pointers into the
array. A word of memory holds an `int` (with its padding) or a pointer, and sizes are counted in
words.

* `fillArray_of`: **`_fill_array` leaves the conversions of the new entries, whatever was there**;
* `dataConvert_encode`: `_data_convert` computes `Read.dataConvert`;
* `data_convert_updates`: the arrays after any number of updates, and what is sent from them. -/

namespace Spawny.Client.DataConvert

open Spawny.Lib.FlatArray Spawny.Protocol.Messages
open Spawny.Client.Read (Context findSimularSession)

/-- A word of an array: what `realloc` left, zero (the `NULL` pointer), an `int`, or a pointer to a
string the library has copied. -/
inductive Word
  | junk
  | zero
  | int (n : ℤ)
  | str (s : String)
  deriving DecidableEq, Repr

/-- `Numbered_Array`. -/
structure NumberedArray where
  length : ℕ
  data : List Word
  deriving DecidableEq, Repr

/-- The arrays of `Sp_Client_Context`. -/
structure ClientContext where
  sessions : NumberedArray
  privateSessions : NumberedArray
  templates : NumberedArray
  privateTemplates : NumberedArray
  users : NumberedArray
  deriving DecidableEq, Repr

/-- The context is allocated with `calloc`. -/
def ClientContext.start : ClientContext :=
  ⟨⟨0, []⟩, ⟨0, []⟩, ⟨0, []⟩, ⟨0, []⟩, ⟨0, []⟩⟩

/-! ### The element types -/

/-- `FREE_S`. -/
def freeS : Word → Option Word
  | .zero => some .zero
  | .str _ => some .zero
  | .int _ => none
  | .junk => none

/-- `sizeof(Template)`: `id`, `icon`, `name`. -/
def sizeofTemplate : ℕ := 3

/-- `sizeof(Session)`: `id`, `icon`, `user`, `name`. -/
def sizeofSession : ℕ := 4

/-- `sizeof(User)`: `id`, `icon`, `name`, `prefered_session`. -/
def sizeofUser : ℕ := 4

/-- `sizeof(Private_Session)`: `session_id`, `id`. -/
def sizeofPrivateSession : ℕ := 2

/-- `sizeof(Private_Template)`: `template_id`, `id`. -/
def sizeofPrivateTemplate : ℕ := 2

def templatesFree : List Word → Option (List Word)
  | id :: icon :: name :: rest => do
    let name ← freeS name
    let icon ← freeS icon
    some (id :: icon :: name :: rest)
  | _ => none

-- the strings of a message are required, so `STRDUP_S` always copies
def templatesConvert (proto : SessionTemplate) (id : ℕ) : List Word → Option (List Word)
  | _ :: _ :: _ :: rest => some (.int id :: .str proto.icon :: .str proto.name :: rest)
  | _ => none

def sessionsFree : List Word → Option (List Word)
  | id :: icon :: user :: name :: rest => do
    let icon ← freeS icon
    let name ← freeS name
    let user ← freeS user
    some (id :: icon :: user :: name :: rest)
  | _ => none

def sessionsConvert (proto : Session) (id : ℕ) : List Word → Option (List Word)
  | _ :: _ :: _ :: _ :: rest =>
    some (.int id :: .str proto.icon :: .str proto.user :: .str proto.name :: rest)
  | _ => none

/-- The rounds of `_find_simular_session` from `i` on: the names of the templates are read from
their array. -/
def findRounds (templates : NumberedArray) (preferedSession : String) : ℕ → ℕ → Option ℕ
  | 0, _ => some 0
  | n + 1, i =>
    match templates.data[i * sizeofTemplate + 2]? with
    | some (.str name) =>
      if preferedSession = name then some i else findRounds templates preferedSession n (i + 1)
    | _ => none

/-- `_find_simular_session`. -/
def findSimular (templates : NumberedArray) (preferedSession : String) : Option ℕ :=
  findRounds templates preferedSession templates.length 0

def usersFree : List Word → Option (List Word)
  | id :: icon :: name :: prefered :: rest => do
    let icon ← freeS icon
    let name ← freeS name
    some (id :: icon :: name :: prefered :: rest)
  | _ => none

def usersConvert (templates : NumberedArray) (proto : User) (id : ℕ) :
    List Word → Option (List Word)
  | _ :: _ :: _ :: _ :: rest => do
    let prefered ← findSimular templates proto.preferedSession
    some (.int id :: .str proto.icon :: .str proto.name :: .int prefered :: rest)
  | _ => none

def privateSessionsFree : List Word → Option (List Word)
  | sessionId :: id :: rest => do
    let sessionId ← freeS sessionId
    some (sessionId :: id :: rest)
  | _ => none

def privateSessionsConvert (proto : Session) (id : ℕ) : List Word → Option (List Word)
  | _ :: _ :: rest => some (.str proto.id :: .int id :: rest)
  | _ => none

def privateTemplatesFree : List Word → Option (List Word)
  | templateId :: id :: rest => do
    let templateId ← freeS templateId
    some (templateId :: id :: rest)
  | _ => none

def privateTemplatesConvert (proto : SessionTemplate) (id : ℕ) : List Word → Option (List Word)
  | _ :: _ :: rest => some (.str proto.id :: .int id :: rest)
  | _ => none

/-! ### _fill_array -/

/-- `if (diff > 0) memset(..)`: zeroes the elements from `length` on. -/
def zeroNew (typeSize length n : ℕ) (mem : List Word) : Option (List Word) :=
  if length < n then fill (length * typeSize) (typeSize * (n - length)) .zero mem else some mem

/-- `_fill_array`. -/
def fillArray {β : Type} (array : NumberedArray) (typeSize : ℕ) (data : List β)
    (ff : List Word → Option (List Word)) (cf : β → ℕ → List Word → Option (List Word)) :
    Option NumberedArray := do
  let mem ← loop typeSize (fun _ => ff) array.length 0 array.data
  let mem := resize .junk (data.length * typeSize) mem
  let mem ← zeroNew typeSize array.length data.length mem
  let mem ← loop typeSize (fun i goal => (data[i]?).bind fun d => cf d i goal) data.length 0 mem
  some ⟨data.length, mem⟩

/-- `_data_convert`. -/
def dataConvert (ctx : ClientContext) (data : Data) : Option ClientContext := do
  let templates ← fillArray ctx.templates sizeofTemplate data.templates templatesFree
    templatesConvert
  let sessions ← fillArray ctx.sessions sizeofSession data.sessions sessionsFree sessionsConvert
  let users ← fillArray ctx.users sizeofUser data.users usersFree (usersConvert templates)
  let privateSessions ← fillArray ctx.privateSessions sizeofPrivateSession data.sessions
    privateSessionsFree privateSessionsConvert
  let privateTemplates ← fillArray ctx.privateTemplates sizeofPrivateTemplate data.templates
    privateTemplatesFree privateTemplatesConvert
  some ⟨sessions, privateSessions, templates, privateTemplates, users⟩

theorem exists_zeroNew {size n : ℕ} (length : ℕ) {mem : List Word} (h : mem.length = n * size) :
    ∃ mem', zeroNew size length n mem = some mem' ∧ mem'.length = n * size := by
  unfold zeroNew
  split_ifs with hgrow
  · have hle : length * size + size * (n - length) ≤ mem.length := by
      rw [h, Nat.mul_comm size, ← Nat.add_mul]
      exact Nat.mul_le_mul_right size (by omega)
    obtain ⟨mem', hfill, hmem'⟩ := exists_fill hle .zero
    exact ⟨mem', hfill, hmem'.trans h⟩
  · exact ⟨mem, rfl, h⟩

/-- The array of the elements `els`. -/
def NumberedArray.of (els : List (List Word)) : NumberedArray := ⟨els.length, els.flatten⟩

/-- **`_fill_array`** on an array whose strings can be freed. -/
theorem fillArray_of {β : Type} {els : List (List Word)} {size : ℕ} {data : List β}
    {ff : List Word → Option (List Word)} {cf : β → ℕ → List Word → Option (List Word)}
    {enc : ℕ → β → List Word} (freed : List Word → List Word)
    (hff : ∀ e ∈ els, (freed e).length = size ∧ ∀ rest, ff (e ++ rest) = some (freed e ++ rest))
    (hcf : ∀ i d c, d ∈ data → c.length = size →
      (enc i d).length = size ∧ ∀ rest, cf d i (c ++ rest) = some (enc i d ++ rest)) :
    fillArray (.of els) size data ff cf = some (.of (data.mapIdx enc)) := by
  have hfree : loop size (fun _ => ff) els.length 0 els.flatten =
      some (els.map freed).flatten := by
    refine loop_flatten els (els.map freed) 0 [] (Nat.zero_mul size).symm (by simp) ?_
    intro j c o hc ho
    rw [List.getElem?_map, hc] at ho
    obtain rfl := Option.some.inj ho
    exact hff c (List.mem_of_getElem? hc)
  -- the memory has the new size, whatever is in it
  obtain ⟨mem, hnew, hsize⟩ := exists_zeroNew els.length
    (length_resize .junk (data.length * size) (els.map freed).flatten)
  obtain ⟨cs, hcount, hcs, rfl⟩ := exists_chunks _ _ _ hsize
  have hconvert : loop size (fun i goal => (data[i]?).bind fun d => cf d i goal) data.length 0
      cs.flatten = some (data.mapIdx enc).flatten := by
    rw [← hcount]
    refine loop_flatten cs (data.mapIdx enc) 0 [] (Nat.zero_mul size).symm (by simp [hcount]) ?_
    intro j c o hc ho
    rw [List.getElem?_mapIdx] at ho
    obtain ⟨d, hd, rfl⟩ := Option.map_eq_some_iff.mp ho
    obtain ⟨henc, hcf'⟩ := hcf j d c (List.mem_of_getElem? hd) (hcs c (List.mem_of_getElem? hc))
    refine ⟨henc, fun rest => ?_⟩
    rw [Nat.zero_add, hd]
    exact hcf' rest
  unfold fillArray NumberedArray.of
  dsimp only
  rw [hfree, Option.bind_eq_bind, Option.bind_some, hnew, Option.bind_some, hconvert,
    Option.bind_some, List.length_mapIdx]

/-! ### The updates -/

/-- The elements of the five arrays. -/
def templateWords (t : Read.Template) : List Word := [.int t.id, .str t.icon, .str t.name]

def sessionWords (s : Read.Session) : List Word := [.int s.id, .str s.icon, .str s.user, .str s.name]

def userWords (u : Read.User) : List Word :=
  [.int u.id, .str u.icon, .str u.name, .int u.preferedSession]

def privateWords (i : ℕ) (id : String) : List Word := [.str id, .int i]

/-- The arrays of a context in memory. -/
def encode (c : Context) : ClientContext where
  sessions := .of (c.sessions.map sessionWords)
  privateSessions := .of (c.privateSessions.mapIdx privateWords)
  templates := .of (c.templates.map templateWords)
  privateTemplates := .of (c.privateTemplates.mapIdx privateWords)
  users := .of (c.users.map userWords)

theorem length_of_mem_map {β : Type} {f : β → List Word} (size : ℕ) (h : ∀ b, (f b).length = size)
    {l : List β} {e : List Word} (he : e ∈ l.map f) : e.length = size := by
  obtain ⟨b, -, rfl⟩ := List.mem_map.mp he
  exact h b

/-- `_find_simular_session` finds the first template with the name. -/
theorem findSimular_of (ts : List Read.Template) (preferedSession : String) :
    findSimular (.of (ts.map templateWords)) preferedSession =
      some (findSimularSession ts preferedSession) := by
  unfold findSimular findSimularSession NumberedArray.of
  dsimp only
  rw [List.length_map]
  -- the names from `i` on are those of `post`
  suffices h : ∀ (post pre : List Read.Template), ts = pre ++ post →
      findRounds ⟨_, (ts.map templateWords).flatten⟩ preferedSession post.length pre.length =
        some (((post.findIdx? fun t => t.name == preferedSession).map (pre.length + ·)).getD 0) by
    have h0 := h ts [] rfl
    simpa using h0
  intro post
  induction post with
  | nil => exact fun _ _ => rfl
  | cons t post ih =>
    intro pre hts
    have hname : (ts.map templateWords).flatten[pre.length * sizeofTemplate + 2]? =
        some (.str t.name) := by
      rw [getElem?_flatten_mul (by decide) _ _ fun e he =>
        length_of_mem_map sizeofTemplate (fun _ => rfl) he]
      subst hts
      simp [templateWords]
    rw [List.length_cons, findRounds, hname, List.findIdx?_cons]
    dsimp only
    by_cases heq : preferedSession = t.name
    · rw [if_pos heq, if_pos (beq_iff_eq.mpr heq.symm)]
      rfl
    · have ih' := ih (pre ++ [t]) (by rw [hts, List.append_assoc]; rfl)
      rw [List.length_append, List.length_singleton] at ih'
      rw [if_neg heq, if_neg (fun hb => heq (beq_iff_eq.mp hb).symm), ih', Option.map_map]
      congr 2
      refine congrFun (congrArg Option.map ?_) _
      funext k
      change pre.length + 1 + k = pre.length + (k + 1)
      omega

theorem map_mapIdx {β γ δ : Type} (f : ℕ → β → γ) (g : γ → δ) (l : List β) :
    (l.mapIdx f).map g = l.mapIdx fun i b => g (f i b) :=
  List.ext_getElem? fun i => by simp [Function.comp_def]

theorem mapIdx_map {β γ δ : Type} (f : β → γ) (g : ℕ → γ → δ) (l : List β) :
    (l.map f).mapIdx g = l.mapIdx fun i b => g i (f b) :=
  List.ext_getElem? fun i => by simp [Function.comp_def]

theorem templates_filled (ts : List Read.Template) (data : List SessionTemplate) :
    fillArray (.of (ts.map templateWords)) sizeofTemplate data templatesFree templatesConvert =
      some (.of (data.mapIdx fun i t => templateWords ⟨i, t.icon, t.name⟩)) := by
  refine fillArray_of (fun e => [e.headD .zero, .zero, .zero]) ?_ ?_
  · intro e he
    obtain ⟨t, -, rfl⟩ := List.mem_map.mp he
    exact ⟨rfl, fun _ => rfl⟩
  · intro i t c _ hc
    match c, hc with
    | [_, _, _], _ => exact ⟨rfl, fun _ => rfl⟩

theorem sessions_filled (ss : List Read.Session) (data : List Session) :
    fillArray (.of (ss.map sessionWords)) sizeofSession data sessionsFree sessionsConvert =
      some (.of (data.mapIdx fun i s => sessionWords ⟨i, s.icon, s.user, s.name⟩)) := by
  refine fillArray_of (fun e => [e.headD .zero, .zero, .zero, .zero]) ?_ ?_
  · intro e he
    obtain ⟨s, -, rfl⟩ := List.mem_map.mp he
    exact ⟨rfl, fun _ => rfl⟩
  · intro i s c _ hc
    match c, hc with
    | [_, _, _, _], _ => exact ⟨rfl, fun _ => rfl⟩

/-- The users are converted after the templates, whose names they look for. -/
theorem users_filled (us : List Read.User) (ts : List Read.Template) (data : List User) :
    fillArray (.of (us.map userWords)) sizeofUser data usersFree
        (usersConvert (.of (ts.map templateWords))) =
      some (.of (data.mapIdx fun i u =>
        userWords ⟨i, u.icon, u.name, findSimularSession ts u.preferedSession⟩)) := by
  refine fillArray_of (fun e => [e.headD .zero, .zero, .zero, e.getD 3 .zero]) ?_ ?_
  · intro e he
    obtain ⟨u, -, rfl⟩ := List.mem_map.mp he
    exact ⟨rfl, fun _ => rfl⟩
  · intro i u c _ hc
    match c, hc with
    | [_, _, _, _], _ =>
      refine ⟨rfl, fun rest => ?_⟩
      simp only [List.cons_append, usersConvert, findSimular_of]
      rfl

theorem privateSessions_filled (ids : List String) (data : List Session) :
    fillArray (.of (ids.mapIdx privateWords)) sizeofPrivateSession data privateSessionsFree
        privateSessionsConvert =
      some (.of (data.mapIdx fun i s => privateWords i s.id)) := by
  refine fillArray_of (fun e => [.zero, e.getD 1 .zero]) ?_ ?_
  · intro e he
    obtain ⟨i, hi, rfl⟩ := List.mem_mapIdx.mp he
    exact ⟨rfl, fun _ => rfl⟩
  · intro i s c _ hc
    match c, hc with
    | [_, _], _ => exact ⟨rfl, fun _ => rfl⟩

theorem privateTemplates_filled (ids : List String) (data : List SessionTemplate) :
    fillArray (.of (ids.mapIdx privateWords)) sizeofPrivateTemplate data privateTemplatesFree
        privateTemplatesConvert =
      some (.of (data.mapIdx fun i t => privateWords i t.id)) := by
  refine fillArray_of (fun e => [.zero, e.getD 1 .zero]) ?_ ?_
  · intro e he
    obtain ⟨i, hi, rfl⟩ := List.mem_mapIdx.mp he
    exact ⟨rfl, fun _ => rfl⟩
  · intro i t c _ hc
    match c, hc with
    | [_, _], _ => exact ⟨rfl, fun _ => rfl⟩

/-- **`_data_convert`** on the arrays of any context. -/
theorem dataConvert_encode (c : Context) (d : Data) :
    dataConvert (encode c) d = some (encode (Read.dataConvert d)) := by
  have htemplates : d.templates.mapIdx (fun i t => templateWords ⟨i, t.icon, t.name⟩) =
      (Read.dataConvert d).templates.map templateWords := (map_mapIdx ..).symm
  unfold dataConvert encode
  dsimp only
  rw [templates_filled, htemplates, sessions_filled, privateSessions_filled,
    privateTemplates_filled, Option.bind_eq_bind, Option.bind_some, users_filled]
  simp only [Option.bind_some, Read.dataConvert, map_mapIdx, mapIdx_map]

/-! ### What is sent -/

/-- `sp_client_session_activate`: the messages written. -/
def spClientSessionActivate (ctx : ClientContext) (session : ℤ) : Option (List GreeterMessage) :=
  if session < 0 ∨ ctx.privateSessions.length ≤ session then some []
  else
    match ctx.privateSessions.data[session.toNat * sizeofPrivateSession]? with
    | some (.str id) => some [⟨.sessionActivation, none, some id⟩]
    | _ => none

/-- `sp_client_login`: the messages written. -/
def spClientLogin (ctx : ClientContext) (usr pw : String) (template : ℤ) :
    Option (List GreeterMessage) :=
  if template < 0 ∨ ctx.privateTemplates.length ≤ template then some []
  else
    match ctx.privateTemplates.data[template.toNat * sizeofPrivateTemplate]? with
    | some (.str id) => some [⟨.loginTry, some ⟨usr, pw, id⟩, none⟩]
    | _ => none

/-- The words of the element `i`. -/
def NumberedArray.element (array : NumberedArray) (size i : ℕ) : List Word :=
  (array.data.drop (i * size)).take size

theorem element_of {els : List (List Word)} {size i : ℕ} {e : List Word}
    (h : ∀ e ∈ els, e.length = size) (hi : els[i]? = some e) :
    (NumberedArray.of els).element size i = e := by
  refine List.ext_getElem? fun k => ?_
  unfold NumberedArray.element NumberedArray.of
  dsimp only
  have he := h e (List.mem_of_getElem? hi)
  rcases Nat.lt_or_ge k size with hk | hk
  · rw [List.getElem?_take_of_lt hk, List.getElem?_drop, getElem?_flatten_mul hk els i h, hi]
    rfl
  · rw [List.getElem?_eq_none (by rw [List.length_take]; omega),
      List.getElem?_eq_none (by omega)]

/-- **The five arrays are the conversion of the message `d`**, and what the client sends are the
ids of the message. -/
structure Converted (ctx : ClientContext) (d : Data) : Prop where
  templates : ctx.templates.length = d.templates.length
  sessions : ctx.sessions.length = d.sessions.length
  users : ctx.users.length = d.users.length
  privateSessions : ctx.privateSessions.length = d.sessions.length
  privateTemplates : ctx.privateTemplates.length = d.templates.length
  template : ∀ {i t}, d.templates[i]? = some t →
    ctx.templates.element sizeofTemplate i = [.int i, .str t.icon, .str t.name]
  session : ∀ {i s}, d.sessions[i]? = some s →
    ctx.sessions.element sizeofSession i = [.int i, .str s.icon, .str s.user, .str s.name]
  /-- the preferred session is the first template of the message with the name, or 0 -/
  user : ∀ {i u}, d.users[i]? = some u →
    ctx.users.element sizeofUser i = [.int i, .str u.icon, .str u.name,
      .int ((d.templates.findIdx? fun t => t.name == u.preferedSession).getD 0 : ℕ)]
  privateSession : ∀ {i s}, d.sessions[i]? = some s →
    ctx.privateSessions.element sizeofPrivateSession i = [.str s.id, .int i]
  privateTemplate : ∀ {i t}, d.templates[i]? = some t →
    ctx.privateTemplates.element sizeofPrivateTemplate i = [.str t.id, .int i]
  activates : ∀ {i : ℕ} {s}, d.sessions[i]? = some s →
    spClientSessionActivate ctx i = some [⟨.sessionActivation, none, some s.id⟩]
  activatesNone : ∀ i : ℤ, i < 0 ∨ d.sessions.length ≤ i → spClientSessionActivate ctx i = some []
  logsIn : ∀ {usr pw} {i : ℕ} {t}, d.templates[i]? = some t →
    spClientLogin ctx usr pw i = some [⟨.loginTry, some ⟨usr, pw, t.id⟩, none⟩]
  logsInNone : ∀ {usr pw} (i : ℤ), i < 0 ∨ d.templates.length ≤ i →
    spClientLogin ctx usr pw i = some []

/-- The first word of an entry of a private array is the id of the entry. -/
theorem private_id {ids : List String} {i : ℕ} {id : String} (h : ids[i]? = some id) :
    (NumberedArray.of (ids.mapIdx privateWords)).data[i * 2]? = some (.str id) := by
  have hlen : ∀ e ∈ ids.mapIdx privateWords, e.length = 2 := by
    intro e he
    obtain ⟨i, hi, rfl⟩ := List.mem_mapIdx.mp he
    rfl
  have := getElem?_flatten_mul (k := 0) (by decide) _ i hlen
  rw [Nat.add_zero, List.getElem?_mapIdx, h] at this
  exact this

/-- The templates of the context have the names of those of the message. -/
theorem findSimularSession_dataConvert (d : Data) (preferedSession : String) :
    findSimularSession (Read.dataConvert d).templates preferedSession =
      (d.templates.findIdx? fun t => t.name == preferedSession).getD 0 := by
  have hnames : (Read.dataConvert d).templates.map Read.Template.name =
      d.templates.map SessionTemplate.name := by
    rw [Read.dataConvert, map_mapIdx]
    exact List.ext_getElem? fun i => by simp
  have hfind : ∀ {β : Type} (l : List β) (f : β → String),
      (l.findIdx? fun b => f b == preferedSession) = (l.map f).findIdx? (· == preferedSession) :=
    fun l f => by rw [List.findIdx?_map]; rfl
  rw [findSimularSession, hfind _ Read.Template.name, hnames, ← hfind]

theorem converted_encode (d : Data) : Converted (encode (Read.dataConvert d)) d := by
  have hmap : ∀ {β : Type} {f : β → List Word} {size : ℕ} {l : List β}, (∀ b, (f b).length = size) →
      ∀ {i b}, l[i]? = some b → (NumberedArray.of (l.map f)).element size i = f b := by
    intro β f size l hf i b hb
    exact element_of (fun e he => length_of_mem_map _ hf he) (by rw [List.getElem?_map, hb]; rfl)
  have hprivate : ∀ {ids : List String} {i : ℕ} {id : String}, ids[i]? = some id →
      (NumberedArray.of (ids.mapIdx privateWords)).element 2 i = [.str id, .int i] := by
    intro ids i id hid
    refine element_of (fun e he => ?_) (by rw [List.getElem?_mapIdx, hid]; rfl)
    obtain ⟨i, hi, rfl⟩ := List.mem_mapIdx.mp he
    rfl
  have hsessions : (encode (Read.dataConvert d)).privateSessions.length = d.sessions.length := by
    simp [encode, Read.dataConvert, NumberedArray.of]
  have htemplates : (encode (Read.dataConvert d)).privateTemplates.length =
      d.templates.length := by
    simp [encode, Read.dataConvert, NumberedArray.of]
  refine ⟨?_, ?_, ?_, hsessions, htemplates, fun {i t} ht => ?_, fun {i s} hs => ?_,
    fun {i u} hu => ?_, fun {i s} hs => ?_, fun {i t} ht => ?_, fun {i s} hs => ?_,
    fun i hi => ?_, fun {usr pw i t} ht => ?_, fun {usr pw} i hi => ?_⟩
  · simp [encode, Read.dataConvert, NumberedArray.of]
  · simp [encode, Read.dataConvert, NumberedArray.of]
  · simp [encode, Read.dataConvert, NumberedArray.of]
  · exact hmap (f := templateWords) (b := ⟨i, t.icon, t.name⟩) (fun _ => rfl)
      (by simp [Read.dataConvert, ht])
  · exact hmap (f := sessionWords) (b := ⟨i, s.icon, s.user, s.name⟩) (fun _ => rfl)
      (by simp [Read.dataConvert, hs])
  · refine (hmap (f := userWords) (b := ⟨i, u.icon, u.name, _⟩) (fun _ => rfl)
      (by simp only [Read.dataConvert, List.getElem?_mapIdx, hu]; rfl)).trans ?_
    have hfind := findSimularSession_dataConvert d u.preferedSession
    rw [Read.dataConvert] at hfind
    rw [userWords, hfind]
  · exact hprivate (by simp [Read.dataConvert, hs])
  · exact hprivate (by simp [Read.dataConvert, ht])
  · have hlt := (List.getElem?_eq_some_iff.mp hs).1
    unfold spClientSessionActivate
    rw [if_neg (by rw [hsessions]; omega), Int.toNat_natCast]
    have hid : (Read.dataConvert d).privateSessions[i]? = some s.id := by
      simp [Read.dataConvert, hs]
    unfold encode sizeofPrivateSession
    rw [private_id hid]
  · exact if_pos (by rw [hsessions]; exact hi)
  · have hlt := (List.getElem?_eq_some_iff.mp ht).1
    unfold spClientLogin
    rw [if_neg (by rw [htemplates]; omega), Int.toNat_natCast]
    have hid : (Read.dataConvert d).privateTemplates[i]? = some t.id := by
      simp [Read.dataConvert, ht]
    unfold encode sizeofPrivateTemplate
    rw [private_id hid]
  · exact if_pos (by rw [htemplates]; exact hi)

/-- **After every update** the arrays are the conversion of the last message. -/
theorem data_convert_updates (ds : List Data) (d : Data) :
    ∃ ctx, (ds ++ [d]).foldlM dataConvert ClientContext.start = some ctx ∧ Converted ctx d := by
  have hrun : ∀ (ds : List Data) (c : Context),
      ∃ c', ds.foldlM dataConvert (encode c) = some (encode c') := by
    intro ds
    induction ds with
    | nil => exact fun c => ⟨c, rfl⟩
    | cons d ds ih =>
      intro c
      rw [List.foldlM_cons, dataConvert_encode]
      exact ih _
  obtain ⟨c, hc⟩ := hrun ds ⟨[], [], [], [], []⟩
  refine ⟨encode (Read.dataConvert d), ?_, converted_encode d⟩
  have hstart : ClientContext.start = encode ⟨[], [], [], [], []⟩ := rfl
  rw [hstart, List.foldlM_append, hc, Option.bind_eq_bind, Option.bind_some, List.foldlM_cons,
    dataConvert_encode]
  rfl

end Spawny.Client.DataConvert
