import Spawny.Lib.IniCuts
import Spawny.UserDb.Owners
import Spawny.UserDb.Store

/-! # Reading a record while it is written

`_put_user` empties the file before it takes its lock, and `_load_file` takes none. A process that reads
the database in between, or after a write that has stopped, finds the beginning of the file.

* `parseFile_take`: what is read of the first `n` bytes of a record;
* `own_record`: **the account has no record, or one with a beginning of its pairs**;
* `undisturbed_iff`: **what is read for the other accounts is what their files hold, if and only if the
  name does not begin with the name of one of them**. -/

namespace Spawny.UserDb.Interrupted

open Spawny.Lib.Ini Spawny.UserDb.Records Spawny.UserDb.Files
open Spawny.UserDb.RoundTrip Spawny.UserDb.Owners Spawny.UserDb.Store

/-- The file of a record up to the byte `n`. -/
def partly (u : User) (n : ℕ) (perms : Perms) : DbFile := ⟨iniFile u.name, (fileOf u).take n, perms⟩

def namePair (u : User) : List UInt8 × List UInt8 := (ascii "name", u.name)

def infoPairs (u : User) : List (List UInt8 × List UInt8) := u.additional.map fun p => (p.name, p.value)

def ofPair (q : List UInt8 × List UInt8) : Pair := ⟨q.1, q.2⟩

/-- The name and the pairs in the first `n` bytes. -/
def cutName (u : User) (n : ℕ) : Option Str := (cutPair (namePair u) (n - 11)).map Prod.snd

def cutInfo (u : User) (n : ℕ) : List Pair :=
  (cutPairs (infoPairs u) (n - (header u.name).length)).map ofPair

/-! ### The file -/

theorem length_header (name : Str) : (header name).length = 24 + name.length := by
  have hidentify : (ascii "[identify]").length = 10 := by decide
  have hname : (ascii "name").length = 4 := by decide
  have hinfo : (ascii "[info]").length = 6 := by decide
  simp only [header, List.length_append, List.length_cons, List.length_nil]
  omega

/-- A section line that is cut. -/
theorem entries_identify : ∀ n < 11, entries ((ascii "[identify]").take n) = [] := by decide

theorem entriesFrom_info : ∀ n < 7, (⟨ascii "identify", ascii "name"⟩ : Reader).entriesFrom
    (lines (MAX_CHUNK - 1) ((ascii "[info]").take n)) = [] := by decide

/-- The pairs behind the section `info`. -/
theorem entriesFrom_take_pairs {u : User} (hu : ReadsBack u) (k : ℕ) :
    atInfo.entriesFrom (lines (MAX_CHUNK - 1) ((u.additional.flatMap pairLine).take k)) =
      (cutPairs (infoPairs u) k).map fun q => ⟨ascii "info", q.1, q.2⟩ := by
  have hlines : u.additional.flatMap pairLine = (infoPairs u).flatMap fun p => pairText p.1 p.2 := by
    rw [infoPairs, List.flatMap_map]
    rfl
  have hplain : ∀ p ∈ infoPairs u,
      PlainName p.1 ∧ PlainValue p.2 ∧ p.1.length + 1 + p.2.length ≤ MAX_CHUNK := by
    intro p hp
    obtain ⟨q, hq, rfl⟩ := List.mem_map.mp hp
    exact ⟨(hu.pairs q hq).name, (hu.pairs q hq).value, (hu.pairs q hq).short⟩
  rw [hlines, atInfo.entriesFrom_cutPairs hplain]
  rfl

/-- What stands behind the line with the name. -/
theorem entriesFrom_take_info {u : User} (hu : ReadsBack u) (k : ℕ) :
    (⟨ascii "identify", ascii "name"⟩ : Reader).entriesFrom (lines (MAX_CHUNK - 1)
        ((ascii "[info]" ++ newline :: u.additional.flatMap pairLine).take k)) =
      (cutPairs (infoPairs u) (k - 7)).map fun q => ⟨ascii "info", q.1, q.2⟩ := by
  have hinfo : (ascii "[info]").length = 6 := by decide
  rw [lines_take, hinfo]
  split_ifs with hk
  · rw [entriesFrom_info k (by omega), Nat.sub_eq_zero_of_le (by omega), cutPairs_zero]
    rfl
  · obtain ⟨hnone, hat⟩ := Reader.entriesFrom_section ⟨ascii "identify", ascii "name"⟩
      (s := ascii "info") (by decide) (by decide) (by decide) (by decide)
    have hat' : Reader.after _ (lines _ (ascii "[info]" ++ [newline])) = atInfo := hat
    have hnone' : Reader.entriesFrom _ (lines _ (ascii "[info]" ++ [newline])) = [] := hnone
    rw [Reader.entriesFrom_append, hnone', hat', entriesFrom_take_pairs hu]
    rfl

/-- **The calls of the handler for the beginning of a record.** -/
theorem entries_take {u : User} (hu : ReadsBack u) (n : ℕ) : entries ((fileOf u).take n) =
    ((cutPair (namePair u) (n - 11)).toList.map fun q => ⟨ascii "identify", q.1, q.2⟩) ++
      (cutPairs (infoPairs u) (n - (header u.name).length)).map fun q => ⟨ascii "info", q.1, q.2⟩ := by
  have hidentify : (ascii "[identify]").length = 10 := by decide
  have hfour : (ascii "name").length = 4 := by decide
  have hsplit : fileOf u = ascii "[identify]" ++ newline :: ((ascii "name" ++ equals :: u.name) ++
      newline :: (ascii "[info]" ++ newline :: u.additional.flatMap pairLine)) := by
    simp [fileOf, header]
  have hcount : (ascii "name" ++ equals :: u.name).length = 5 + u.name.length := by
    rw [List.length_append, List.length_cons, hfour]
    omega
  rw [length_header]
  by_cases hn : n < 11
  · -- only a part of the first line
    have hfirst : (fileOf u).take n = (ascii "[identify]").take n := by
      rw [hsplit, List.take_append_of_le_length (by omega)]
    have hname : cutPair (namePair u) (n - 11) = none := if_neg (by simp only [namePair]; omega)
    rw [hfirst, entries_identify n hn, hname, Nat.sub_eq_zero_of_le (by omega), cutPairs_zero]
    rfl
  · have hbom (ls : List (List UInt8)) :
        skipBom (lines (MAX_CHUNK - 1) (ascii "[identify]" ++ [newline]) ++ ls) =
          lines (MAX_CHUNK - 1) (ascii "[identify]" ++ [newline]) ++ ls := rfl
    obtain ⟨hnone, hat⟩ := Reader.entriesFrom_section ⟨[], []⟩ (s := ascii "identify")
      (by decide) (by decide) (by decide) (by decide)
    have hat' : Reader.after _ (lines _ (ascii "[identify]" ++ [newline])) = atName := hat
    have hnone' : Reader.entriesFrom _ (lines _ (ascii "[identify]" ++ [newline])) = [] := hnone
    rw [entries, hsplit, lines_take, hidentify, if_neg (by omega), hbom, Reader.entriesFrom_append,
      hnone', hat', List.nil_append, lines_take, hcount]
    split_ifs with hk
    · -- a part of the line with the name
      have hzero : n - (24 + u.name.length) = 0 := by omega
      rw [hzero, cutPairs_zero, List.map_nil, List.append_nil]
      exact atName.entriesFrom_cutPair (p := namePair u) plainName_name hu.name.value hu.name.short _
    · have hline : (ascii "name" ++ equals :: u.name) ++ [newline] = pairText (ascii "name") u.name := by
        simp [pairText]
      have hfull : cutPair (namePair u) (n - 11) = some (namePair u) := by
        refine cutPair_full hu.name.value ?_
        simp only [namePair, hfour]
        omega
      obtain ⟨hone, hafter⟩ := atName.entriesFrom_plain plainName_name hu.name.value hu.name.short
      have hafter' : atName.after (lines (MAX_CHUNK - 1) (pairText (ascii "name") u.name)) =
          ⟨ascii "identify", ascii "name"⟩ := hafter
      have hrest : n - (10 + 1) - (5 + u.name.length + 1) - 7 = n - (24 + u.name.length) := by omega
      rw [hline, Reader.entriesFrom_append, hone, hafter', entriesFrom_take_info hu, hfull, hrest]
      rfl

/-- **What is read of the first `n` bytes.** -/
theorem parseFile_take {u : User} (hu : ReadsBack u) (n : ℕ) :
    parseFile entries ((fileOf u).take n) = ⟨cutName u n, cutInfo u n⟩ := by
  have hinfo : (cutPairs (infoPairs u) (n - (header u.name).length)).map
        (fun q => (⟨ascii "info", q.1, q.2⟩ : Entry)) =
      (cutInfo u n).map fun p => ⟨ascii "info", p.name, p.value⟩ := by
    rw [cutInfo, List.map_map]
    rfl
  rw [parseFile_eq, entries_take hu, hinfo, List.filterMap_append, List.filterMap_append,
    filterMap_nameOf_pairs, filterMap_pairOf_pairs, List.append_nil]
  unfold cutName
  cases hcut : cutPair (namePair u) (n - 11) with
  | none => rfl
  | some q =>
    have hname : nameOf ⟨ascii "identify", q.1, q.2⟩ = some q.2 := if_pos ⟨rfl, (fst_of_cutPair hcut).1⟩
    rw [Option.toList_some, List.map_singleton, List.filterMap_cons_some hname,
      List.filterMap_cons_none (pairOf_identify rfl)]
    rfl

theorem cutName_eq_some {u : User} {n : ℕ} {name : Str} : cutName u n = some name ↔
    16 ≤ n ∧ name = rstrip (u.name.take (n - 16)) := by
  have hfour : (ascii "name").length = 4 := by decide
  have hsub : n - 11 - (4 + 1) = n - 16 := by omega
  unfold cutName cutPair namePair
  dsimp only
  rw [hfour, hsub]
  split_ifs with hn
  · rw [Option.map_some, Option.some.injEq, eq_comm]
    exact (and_iff_right (by omega)).symm
  · refine iff_of_false (by rintro ⟨⟩) fun hand => ?_
    omega

/-- The whole name is there. -/
theorem cutName_own {u : User} (hu : ReadsBack u) (hne : u.name ≠ []) {n : ℕ} :
    cutName u n = some u.name ↔ 16 + u.name.length ≤ n := by
  rw [cutName_eq_some]
  constructor
  · rintro ⟨hn, hname⟩
    have hlen := (rstrip_isPrefix (u.name.take (n - 16))).length_le
    have hpos := List.length_pos_of_ne_nil hne
    rw [← hname, List.length_take] at hlen
    omega
  · intro hn
    rw [List.take_of_length_le (by omega), rstrip_of_last hu.name.value.last]
    exact ⟨by omega, rfl⟩

/-- As long as the name is cut there are no pairs. -/
theorem cutInfo_nil {u : User} (hu : ReadsBack u) (hne : u.name ≠ []) {n : ℕ}
    (hcut : cutName u n ≠ some u.name) : cutInfo u n = [] := by
  rw [Ne, cutName_own hu hne] at hcut
  rw [cutInfo, length_header, Nat.sub_eq_zero_of_le (by omega), cutPairs_zero]
  rfl

/-- The pairs that are read are a beginning. -/
theorem cutInfo_prefix {u : User} (hu : ReadsBack u) (n : ℕ) : ∃ whole cut,
    cutInfo u n = whole ++ cut ∧ whole <+: u.additional ∧
      ∀ q ∈ cut, cut = [q] ∧ ∃ p ∈ u.additional[whole.length]?, q.name = p.name ∧ q.value <+: p.value := by
  have hvalues : ∀ p ∈ infoPairs u, PlainValue p.2 := by
    intro p hp
    obtain ⟨q, hq, rfl⟩ := List.mem_map.mp hp
    exact (hu.pairs q hq).value
  have hback : (infoPairs u).map ofPair = u.additional := by
    rw [infoPairs, List.map_map]
    exact List.map_id' _
  obtain ⟨whole, cut, heq, hwhole, hcut⟩ := cutPairs_eq (n - (header u.name).length) hvalues
  refine ⟨whole.map ofPair, cut.map ofPair, ?_, ?_, fun q hq => ?_⟩
  · rw [cutInfo, heq, List.map_append]
  · rw [← hback]
    exact hwhole.map ofPair
  · obtain ⟨q', hq', rfl⟩ := List.mem_map.mp hq
    obtain ⟨hone, p, hp, hname, hvalue⟩ := hcut q' hq'
    refine ⟨by rw [hone]; rfl, ofPair p, ?_, hname, hvalue⟩
    rw [← hback, List.length_map, List.getElem?_map, Option.mem_def.mp hp]
    rfl

theorem cutInfo_full {u : User} (hu : ReadsBack u) {n : ℕ} (hn : (fileOf u).length ≤ n + 1) :
    cutInfo u n = u.additional := by
  have hvalues : ∀ p ∈ infoPairs u, PlainValue p.2 := by
    intro p hp
    obtain ⟨q, hq, rfl⟩ := List.mem_map.mp hp
    exact (hu.pairs q hq).value
  have hlength : (infoPairs u).flatMap (fun p => pairText p.1 p.2) = u.additional.flatMap pairLine := by
    rw [infoPairs, List.flatMap_map]
    rfl
  rw [fileOf, List.length_append] at hn
  rw [cutInfo, cutPairs_full hvalues (by rw [hlength]; omega), infoPairs, List.map_map]
  exact List.map_id' _

/-! ### The directory -/

theorem mem_put_iff {d : Dir} {f g : DbFile} :
    f ∈ (d.put g).files ↔ f = g ∨ f ∈ d.files ∧ f.filename ≠ g.filename := by
  constructor
  · intro hf
    have hfind := Dir.find_of_mem hf
    by_cases hname : f.filename = g.filename
    · rw [hname, Dir.find_put] at hfind
      exact .inl (Option.some.inj hfind).symm
    · rw [Dir.find_put_ne _ hname] at hfind
      exact .inr ⟨(Dir.mem_of_find hfind).1, hname⟩
  · rintro (rfl | ⟨hf, hname⟩)
    · exact (Dir.mem_of_find (Dir.find_put d f)).1
    · have hfind : (d.put g).find f.filename = some f := by
        rw [Dir.find_put_ne _ hname, Dir.find_of_mem hf]
      exact (Dir.mem_of_find hfind).1

theorem isIni_iniFile (name : Str) : isIni (iniFile name) = true ↔ name ≠ [] := by
  have hfour : (ascii ".ini").length = 4 := by decide
  unfold isIni iniFile
  rw [List.length_append, hfour, Nat.add_sub_cancel, List.drop_left, Bool.and_eq_true,
    decide_eq_true_iff, ← List.length_pos_iff]
  simp

variable {getpwnam : Str → Option Passwd} {d : Dir} {u : User} {env : LoadEnv}

/-- What the file offers. -/
theorem offer_partly (hu : ReadsBack u) (henv : LoadEnv.Works env) {n : ℕ} {perms : Perms} {v : User} :
    offer entries getpwnam env.fopen (partly u n perms) = some v ↔
      u.name ≠ [] ∧ cutName u n = some v.name ∧ (getpwnam v.name).isSome = true ∧
        v.additional = cutInfo u n := by
  have hcontent : parseFile entries (partly u n perms).content = ⟨cutName u n, cutInfo u n⟩ :=
    parseFile_take hu n
  have hfile : isIni (partly u n perms).filename = true ↔ u.name ≠ [] := isIni_iniFile u.name
  unfold offer
  rw [hcontent, henv.2, Bool.and_true, Option.ite_none_right_eq_some]
  refine and_congr hfile ?_
  obtain ⟨name, additional⟩ := v
  cases cutName u n with
  | none => simp
  | some cut =>
    dsimp only
    rw [Option.ite_none_right_eq_some, Option.some.injEq, Option.some.injEq, User.mk.injEq]
    constructor
    · rintro ⟨hknown, rfl, rfl⟩
      exact ⟨rfl, hknown, rfl⟩
    · rintro ⟨rfl, hknown, rfl⟩
      exact ⟨hknown, rfl, rfl⟩

/-- The record of a name is the one that all files that offer it agree on. -/
theorem userFind_offers_eq {fopen : Str → Bool} {l : List DbFile} {name : Str} {o : Option User}
    (honly : ∀ f ∈ l, ∀ v, offer entries getpwnam fopen f = some v → v.name = name → o = some v)
    (hsome : ∀ v, o = some v → ∃ f ∈ l, offer entries getpwnam fopen f = some v ∧ v.name = name) :
    userFind (l.filterMap (offer entries getpwnam fopen)) name = o := by
  cases hfind : userFind (l.filterMap (offer entries getpwnam fopen)) name with
  | none =>
    cases o with
    | none => rfl
    | some v =>
      obtain ⟨f, hf, hoffer, rfl⟩ := hsome v rfl
      have hfound := isSome_userFind_offers hf hoffer
      rw [hfind] at hfound
      cases hfound
  | some v =>
    obtain ⟨f, hf, hoffer, hname⟩ := exists_of_userFind_offers hfind
    exact (honly f hf v hoffer hname).symm

/-- A file of the database offers the record of its own account. -/
theorem own_of_offer (hd : Written getpwnam d) (henv : LoadEnv.Works env) {f : DbFile} (hf : f ∈ d.files)
    {v : User} (hoffer : offer entries getpwnam env.fopen f = some v) : f.filename = iniFile v.name := by
  cases hini : isIni f.filename with
  | false => simp [offer, hini] at hoffer
  | true =>
    obtain ⟨w, hname, hcontent, hw, hpw⟩ := hd f hf hini
    rw [offer_written henv hini hcontent hw hpw] at hoffer
    rw [← Option.some.inj hoffer, hname]

/-- **The account whose file is written.** -/
theorem userFind_own (hd : Written getpwnam d) (hu : ReadsBack u) (hne : u.name ≠ [])
    (hknown : (getpwnam u.name).isSome = true) (henv : LoadEnv.Works env) (n : ℕ) (perms : Perms)
    (uid : ℕ) : userFind (loadFromFs entries getpwnam env (d.put (partly u n perms)) (fresh uid)).2.user
      u.name = if cutName u n = some u.name then some ⟨u.name, cutInfo u n⟩ else none := by
  rw [userFind_loadFromFs henv.1 _ rfl]
  have hperm := env.readdir_perm (d.put (partly u n perms))
  refine userFind_offers_eq (fun f hf v hoffer hv => ?_) fun v hv => ?_
  · rcases mem_put_iff.mp (hperm.mem_iff.mp hf) with rfl | ⟨hf, hfile⟩
    · obtain ⟨-, hcut, -, hinfo⟩ := (offer_partly hu henv).mp hoffer
      obtain ⟨name, additional⟩ := v
      dsimp only at hv hcut hinfo
      rw [hv] at hcut
      rw [if_pos hcut, hv, hinfo]
    · -- the other files are those of other accounts
      have hown := own_of_offer hd henv hf hoffer
      rw [hv] at hown
      exact absurd hown hfile
  · rw [Option.ite_none_right_eq_some] at hv
    obtain ⟨hcut, hv⟩ := hv
    obtain rfl := Option.some.inj hv
    exact ⟨_, hperm.mem_iff.mpr (mem_put_iff.mpr (.inl rfl)),
      (offer_partly hu henv).mpr ⟨hne, hcut, hknown, rfl⟩, rfl⟩

/-- **The other accounts**, as long as the file that is written does not offer something else. -/
theorem userFind_other (hd : Written getpwnam d) (henv : LoadEnv.Works env) {f : DbFile} {account : Str}
    (hother : f.filename ≠ iniFile account)
    (hoffers : ∀ v, offer entries getpwnam env.fopen f = some v → v.name = account →
      (d.find (iniFile account)).bind (offer entries getpwnam env.fopen) = some v) (uid : ℕ) :
    userFind (loadFromFs entries getpwnam env (d.put f) (fresh uid)).2.user account =
      userFind (loadFromFs entries getpwnam env d (fresh uid)).2.user account := by
  rw [userFind_written henv hd rfl, userFind_loadFromFs henv.1 _ rfl]
  have hperm := env.readdir_perm (d.put f)
  refine userFind_offers_eq (fun g hg v hoffer hv => ?_) fun v hv => ?_
  · rcases mem_put_iff.mp (hperm.mem_iff.mp hg) with rfl | ⟨hg, -⟩
    · exact hoffers v hoffer hv
    · have hown := own_of_offer hd henv hg hoffer
      rw [hv] at hown
      rw [← hown, Dir.find_of_mem hg, Option.bind_some, hoffer]
  · obtain ⟨g, hg, hoffer⟩ := Option.bind_eq_some_iff.mp hv
    obtain ⟨hmem, hname⟩ := Dir.mem_of_find hg
    have hown := own_of_offer hd henv hmem hoffer
    have hfile : g.filename ≠ f.filename := fun heq => hother (heq.symm.trans hname)
    exact ⟨g, hperm.mem_iff.mpr (mem_put_iff.mpr (.inr ⟨hmem, hfile⟩)), hoffer,
      iniFile_injective (hown.symm.trans hname)⟩

/-! ### A reader in between -/

/-- **What a reader finds of the account itself**: nothing, until its name is there, and then a
beginning of its pairs, of which the last one may be cut. -/
theorem own_record (getpwnam : Str → Option Passwd) (d : Dir) (hd : Written getpwnam d) (u : User)
    (hu : ReadsBack u) (hne : u.name ≠ []) (hknown : (getpwnam u.name).isSome = true) (env : LoadEnv)
    (henv : LoadEnv.Works env) (n : ℕ) (perms : Perms) (uid : ℕ) :
    let found := userFind
      (loadFromFs entries getpwnam env (d.put (partly u n perms)) (fresh uid)).2.user u.name
    (n < 16 + u.name.length → found = none) ∧
      (16 + u.name.length ≤ n → ∃ whole cut, found = some ⟨u.name, whole ++ cut⟩ ∧
        whole <+: u.additional ∧ ∀ q ∈ cut, cut = [q] ∧
          ∃ p ∈ u.additional[whole.length]?, q.name = p.name ∧ q.value <+: p.value) ∧
      ((fileOf u).length ≤ n + 1 → found = some u) := by
  intro found
  have hfound : found = if cutName u n = some u.name then some ⟨u.name, cutInfo u n⟩ else none :=
    userFind_own hd hu hne hknown henv n perms uid
  rw [hfound]
  refine ⟨fun hn => ?_, fun hn => ?_, fun hn => ?_⟩
  · rw [if_neg ((cutName_own hu hne).not.mpr (by omega))]
  · obtain ⟨whole, cut, heq, hwhole, hcut⟩ := cutInfo_prefix hu n
    rw [if_pos ((cutName_own hu hne).mpr hn), heq]
    exact ⟨whole, cut, rfl, hwhole, hcut⟩
  · have hlength := length_header u.name
    have hfile : (fileOf u).length = (header u.name).length + (u.additional.flatMap pairLine).length :=
      List.length_append
    rw [if_pos ((cutName_own hu hne).mpr (by omega)), cutInfo_full hu hn]

theorem written_eve {names : List Str} (h : ascii "eve" ∈ names) : Written (passwd names) eveDb.dir := by
  intro f hf _
  obtain rfl := List.mem_singleton.mp hf
  have hpw : passwd names eve.name = some ⟨eve.name, 1000, 1000⟩ := if_pos h
  refine ⟨eve, rfl, rfl, readsBack_eve, ?_⟩
  rw [hpw]
  rfl

/-- Two letters of the name are there. -/
theorem own_record_eve : userFind (loadFromFs entries (passwd [ascii "eve"]) inOrder
    (eveDb.dir.put (partly eve 18 ⟨0, 0, 0⟩)) (fresh 0)).2.user (ascii "eve") = none :=
  (own_record (passwd [ascii "eve"]) eveDb.dir (written_eve (by decide)) eve readsBack_eve (by decide)
    (by decide) inOrder ⟨rfl, fun _ => rfl⟩ 18 ⟨0, 0, 0⟩ 0).1 (by decide)

/-- Whatever record of the name is written and however far, the other accounts have the records that
they had. -/
def Undisturbed (getpwnam : Str → Option Passwd) (d : Dir) (name : Str) : Prop :=
  ∀ u : User, u.name = name → ReadsBack u → ∀ n perms env, LoadEnv.Works env → ∀ uid account,
    account ≠ name →
      userFind (loadFromFs entries getpwnam env (d.put (partly u n perms)) (fresh uid)).2.user account =
        userFind (loadFromFs entries getpwnam env d (fresh uid)).2.user account

/-- **Writing a record disturbs nobody else** if and only if the accounts whose name it begins with
have empty records. -/
theorem undisturbed_iff (getpwnam : Str → Option Passwd) (d : Dir) (hd : Written getpwnam d) (name : Str)
    (hname : PlainAccount name) : Undisturbed getpwnam d name ↔
      ∀ account, account ≠ name → (∃ k, account = rstrip (name.take k)) →
        (getpwnam account).isSome = true →
          userFind (loadFromFs entries getpwnam inOrder d (fresh 0)).2.user account =
            some ⟨account, []⟩ := by
  have hinOrder : LoadEnv.Works inOrder := ⟨rfl, fun _ => rfl⟩
  constructor
  · rintro h account hother ⟨k, hk⟩ hknown
    -- the file with the beginning of the name is listed first
    have hu : ReadsBack ⟨name, []⟩ := ⟨hname, fun p hp => (List.not_mem_nil hp).elim⟩
    have hne : name ≠ [] := by
      rintro rfl
      rw [List.take_nil] at hk
      exact hother hk
    let f : DbFile := partly ⟨name, []⟩ (16 + k) ⟨0, 0, 0⟩
    have henv : LoadEnv.Works (listedFirst (fun _ => true) f) := ⟨rfl, fun _ => rfl⟩
    have hsame := h ⟨name, []⟩ rfl hu (16 + k) ⟨0, 0, 0⟩ _ henv 0 account hother
    have hoffer : offer entries getpwnam (fun _ => true) f = some ⟨account, []⟩ := by
      refine (offer_partly hu hinOrder).mpr ⟨hne, cutName_eq_some.mpr ⟨Nat.le_add_right _ _, ?_⟩, hknown, rfl⟩
      rw [Nat.add_sub_cancel_left]
      exact hk
    have hfirst : userFind (loadFromFs entries getpwnam (listedFirst (fun _ => true) f) (d.put f)
        (fresh 0)).2.user account = some ⟨account, []⟩ := by
      rw [userFind_loadFromFs henv.1 _ rfl]
      unfold listedFirst
      dsimp only
      rw [if_pos (mem_put_iff.mpr (.inl rfl)), List.filterMap_cons_some hoffer]
      exact List.find?_cons_of_pos (by simp)
    rw [userFind_written hinOrder hd rfl]
    rw [userFind_written henv hd rfl] at hsame
    exact hsame.symm.trans hfirst
  · rintro h u rfl hu n perms env henv uid account hother
    have hfile : (partly u n perms).filename ≠ iniFile account := fun heq =>
      hother (iniFile_injective heq).symm
    refine userFind_other hd henv hfile (fun v hoffer hv => ?_) uid
    obtain ⟨hne, hcut, hknown, hinfo⟩ := (offer_partly hu henv).mp hoffer
    obtain ⟨vname, additional⟩ := v
    dsimp only at hv hcut hknown hinfo
    subst hv
    have hown : cutName u n ≠ some u.name := fun heq => hother (Option.some.inj (hcut.symm.trans heq))
    have hempty := h vname hother ⟨_, (cutName_eq_some.mp hcut).2⟩ hknown
    rw [userFind_written hinOrder hd rfl] at hempty
    have hfopen : env.fopen = inOrder.fopen := funext henv.2
    rw [hfopen, hinfo, cutInfo_nil hu hne hown]
    exact hempty

/-- Eve has an icon, and Evelyn's file is written. -/
theorem undisturbed_iff_evelyn :
    Undisturbed (passwd [ascii "eve", ascii "evelyn"]) eveDb.dir (ascii "evelyn") ↔
      ∀ account, account ≠ ascii "evelyn" → (∃ k, account = rstrip ((ascii "evelyn").take k)) →
        (passwd [ascii "eve", ascii "evelyn"] account).isSome = true →
          userFind (loadFromFs entries (passwd [ascii "eve", ascii "evelyn"]) inOrder eveDb.dir
            (fresh 0)).2.user account = some ⟨account, []⟩ :=
  undisturbed_iff (passwd [ascii "eve", ascii "evelyn"]) eveDb.dir (written_eve (by decide))
    (ascii "evelyn") ⟨by decide, by decide⟩

set_option maxRecDepth 8000 in
/-- After three letters Eve has no icon any more. -/
example : userFind (loadFromFs entries (passwd [ascii "eve", ascii "evelyn"])
    (listedFirst (fun _ => true) (partly ⟨ascii "evelyn", []⟩ 19 ⟨0, 0, 0⟩))
    (eveDb.dir.put (partly ⟨ascii "evelyn", []⟩ 19 ⟨0, 0, 0⟩)) (fresh 0)).2.user (ascii "eve") =
      some ⟨ascii "eve", []⟩ := by decide

end Spawny.UserDb.Interrupted
