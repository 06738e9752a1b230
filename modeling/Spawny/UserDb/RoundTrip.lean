import Spawny.Lib.IniPairs
import Spawny.UserDb.Files

/-! # Writing and reading a record

`_put_user` writes a record without any escaping, and inih reads it line by line.

* `readsBack_parse`: a record of plain texts is read back;
* `roundTrips_iff`: **these are the only ones**: what is read is plain and fits, so nothing else can
  be equal to what was written. -/

namespace Spawny.UserDb.RoundTrip

open Spawny.Lib.Ini Spawny.UserDb.Records Spawny.UserDb.Files

/-- The file is written in full, and reading it gives the name and the pairs. -/
def RoundTrips (u : User) : Prop :=
  userBytes u = some (fileOf u) ∧ parseFile entries (fileOf u) = ⟨some u.name, u.additional⟩

instance (u : User) : Decidable (RoundTrips u) := by
  unfold RoundTrips
  infer_instance

/-- A pair whose line is read back. -/
structure PlainPair (p : Pair) : Prop where
  name : PlainName p.name
  value : PlainValue p.value
  short : p.name.length + 1 + p.value.length ≤ MAX_CHUNK

instance (p : Pair) : Decidable (PlainPair p) :=
  decidable_of_iff (PlainName p.name ∧ PlainValue p.value ∧
      p.name.length + 1 + p.value.length ≤ MAX_CHUNK)
    ⟨fun ⟨h₁, h₂, h₃⟩ => ⟨h₁, h₂, h₃⟩, fun ⟨h₁, h₂, h₃⟩ => ⟨h₁, h₂, h₃⟩⟩

/-- A name whose line in the section `identify` is read back. -/
structure PlainAccount (name : Str) : Prop where
  value : PlainValue name
  short : 4 + 1 + name.length ≤ MAX_CHUNK

/-- The name and the pairs of a record are plain. -/
structure ReadsBack (u : User) : Prop where
  name : PlainAccount u.name
  pairs : ∀ p ∈ u.additional, PlainPair p

/-! ### The handler -/

/-- The name that an entry of the section `identify` gives. -/
def nameOf (e : Entry) : Option Str :=
  if e.sect = ascii "identify" ∧ e.name = ascii "name" then some e.value else none

/-- The pair that an entry of the section `info` gives. -/
def pairOf (e : Entry) : Option Pair :=
  if e.sect = ascii "info" then some ⟨e.name, e.value⟩ else none

theorem pairOf_info {e : Entry} (h : e.sect = ascii "info") : pairOf e = some ⟨e.name, e.value⟩ :=
  if_pos h

theorem nameOf_info {e : Entry} (h : e.sect = ascii "info") : nameOf e = none :=
  if_neg fun hid => absurd (h.symm.trans hid.1) (by decide)

theorem pairOf_identify {e : Entry} (h : e.sect = ascii "identify") : pairOf e = none :=
  if_neg fun hinfo => absurd (h.symm.trans hinfo) (by decide)

theorem loadIniParse_eq (u : Loaded) (e : Entry) :
    loadIniParse u e = ⟨(nameOf e).or u.name, u.additional ++ (pairOf e).toList⟩ := by
  have hne : ascii "identify" ≠ ascii "info" := by decide
  unfold loadIniParse nameOf pairOf
  by_cases hid : e.sect = ascii "identify"
  · have hinfo : e.sect ≠ ascii "info" := fun h => hne (hid.symm.trans h)
    by_cases hname : e.name = ascii "name" <;> simp [hid, hname, hne]
  · by_cases hinfo : e.sect = ascii "info"
    · simp [hinfo, hne.symm]
    · simp [hid, hinfo]

theorem foldl_loadIniParse : ∀ (es : List Entry) (u : Loaded),
    es.foldl loadIniParse u =
      ⟨(es.filterMap nameOf).getLast?.or u.name, u.additional ++ es.filterMap pairOf⟩
  | [], u => by simp
  | e :: es, u => by
    rw [List.foldl_cons, foldl_loadIniParse es, loadIniParse_eq]
    cases hname : nameOf e <;> cases hpair : pairOf e <;>
      simp [hname, hpair, List.getLast?_cons]

theorem parseFile_eq (parse : Str → List Entry) (content : Str) :
    parseFile parse content =
      ⟨((parse content).filterMap nameOf).getLast?, (parse content).filterMap pairOf⟩ := by
  rw [parseFile, foldl_loadIniParse]
  simp

/-! ### The lines of the file -/

/-- What `fgets` returns for the lines of the pairs. -/
def pairsLines (ps : List Pair) : List (List UInt8) :=
  ps.flatMap fun p => lines (MAX_CHUNK - 1) (pairText p.name p.value)

theorem lines_pairs : ∀ ps : List Pair,
    lines (MAX_CHUNK - 1) (ps.flatMap pairLine) = pairsLines ps
  | [] => rfl
  | p :: ps => by
    have hsplit : (p :: ps).flatMap pairLine =
        (p.name ++ equals :: p.value) ++ newline :: ps.flatMap pairLine := by
      simp [pairLine]
    have hp : pairText p.name p.value = (p.name ++ equals :: p.value) ++ [newline] := by
      simp [pairText]
    rw [hsplit, lines_append_newline, lines_pairs ps, ← hp]
    rfl

/-- The reader at the line with the name, and behind the line of the section `info`. -/
def atName : Reader := ⟨ascii "identify", []⟩
def atInfo : Reader := ⟨ascii "info", []⟩

theorem entries_fileOf (u : User) :
    entries (fileOf u) =
      atName.entriesFrom (lines (MAX_CHUNK - 1) (pairText (ascii "name") u.name)) ++
        atInfo.entriesFrom (pairsLines u.additional) := by
  obtain ⟨hidentify, hatName⟩ := Reader.entriesFrom_section ⟨[], []⟩ (s := ascii "identify")
    (by decide) (by decide) (by decide) (by decide)
  have hsplit : fileOf u = ascii "[identify]" ++ newline :: ((ascii "name" ++ equals :: u.name) ++
      newline :: (ascii "[info]" ++ newline :: u.additional.flatMap pairLine)) := by
    simp [fileOf, header]
  have hname :
      pairText (ascii "name") u.name = (ascii "name" ++ equals :: u.name) ++ [newline] := by
    simp [pairText]
  -- the first line is not cut and has no byte order mark
  have hfirst : lines (MAX_CHUNK - 1) (ascii "[identify]" ++ [newline]) =
      [ascii "[identify]" ++ [newline]] := by decide
  have hbom (ls : List (List UInt8)) :
      skipBom ([ascii "[identify]" ++ [newline]] ++ ls) = [ascii "[identify]" ++ [newline]] ++ ls :=
    rfl
  rw [entries, hsplit, lines_append_newline, lines_append_newline _ _ (ascii "[info]" ++ _),
    lines_append_newline (ascii "[info]"), lines_pairs, ← hname, hfirst, hbom, ← hfirst]
  change Reader.entriesFrom ⟨[], []⟩
    (lines _ (opening :: (ascii "identify" ++ [closing]) ++ [newline]) ++ _) = _
  rw [Reader.entriesFrom_append, hidentify, hatName, List.nil_append, Reader.entriesFrom_append]
  congr 1
  rw [Reader.entriesFrom_append]
  generalize Reader.after _ _ = r
  obtain ⟨hinfo, hatInfo⟩ := r.entriesFrom_section (s := ascii "info")
    (by decide) (by decide) (by decide) (by decide)
  change r.entriesFrom (lines _ (opening :: (ascii "info" ++ [closing]) ++ [newline])) ++
    (r.after (lines _ (opening :: (ascii "info" ++ [closing]) ++ [newline]))).entriesFrom _ = _
  rw [hinfo, hatInfo, List.nil_append]
  rfl

/-! ### A plain record is read back -/

theorem entriesFrom_pairsLines : ∀ {ps : List Pair} (r : Reader), (∀ p ∈ ps, PlainPair p) →
    r.entriesFrom (pairsLines ps) = ps.map fun p => ⟨r.sect, p.name, p.value⟩
  | [], _, _ => rfl
  | p :: ps, r, h => by
    obtain ⟨hn, hv, hlen⟩ := h p List.mem_cons_self
    obtain ⟨hline, hnext⟩ := r.entriesFrom_plain hn hv hlen
    rw [pairsLines, List.flatMap_cons, Reader.entriesFrom_append, hline, hnext, List.map_cons]
    exact congrArg _ (entriesFrom_pairsLines _ fun q hq => h q (List.mem_cons_of_mem _ hq))

theorem plainName_name : PlainName (ascii "name") := by decide

/-- **The entries of a plain record.** -/
theorem entries_of_readsBack {u : User} (h : ReadsBack u) :
    entries (fileOf u) = ⟨ascii "identify", ascii "name", u.name⟩ ::
      u.additional.map fun p => ⟨ascii "info", p.name, p.value⟩ := by
  obtain ⟨hline, -⟩ := atName.entriesFrom_plain plainName_name h.name.value h.name.short
  rw [entries_fileOf, hline, entriesFrom_pairsLines atInfo h.pairs]
  rfl

theorem filterMap_nameOf_pairs (ps : List Pair) :
    (ps.map fun p => (⟨ascii "info", p.name, p.value⟩ : Entry)).filterMap nameOf = [] := by
  rw [List.filterMap_map, List.filterMap_eq_nil_iff]
  exact fun p _ => nameOf_info rfl

theorem filterMap_pairOf_pairs (ps : List Pair) :
    (ps.map fun p => (⟨ascii "info", p.name, p.value⟩ : Entry)).filterMap pairOf = ps := by
  have hpair : pairOf ∘ (fun p : Pair => (⟨ascii "info", p.name, p.value⟩ : Entry)) = some := by
    funext p
    exact pairOf_info rfl
  rw [List.filterMap_map, hpair, List.filterMap_some]

theorem readsBack_parse {u : User} (h : ReadsBack u) :
    parseFile entries (fileOf u) = ⟨some u.name, u.additional⟩ := by
  have hname : nameOf ⟨ascii "identify", ascii "name", u.name⟩ = some u.name := if_pos ⟨rfl, rfl⟩
  rw [parseFile_eq, entries_of_readsBack h, List.filterMap_cons_some hname,
    List.filterMap_cons_none (pairOf_identify rfl), filterMap_nameOf_pairs, filterMap_pairOf_pairs]
  rfl

theorem ReadsBack.fits {u : User} (h : ReadsBack u) : Fits u := by
  have hmax : MAX_CHUNK = 199 := rfl
  have hbuf : BUF_SIZE = 4048 := rfl
  refine ⟨?_, fun p hp => ?_⟩
  · have hlen := h.name.short
    have hidentify : (ascii "[identify]").length = 10 := by decide
    have hname : (ascii "name").length = 4 := by decide
    have hinfo : (ascii "[info]").length = 6 := by decide
    simp only [header, List.length_append, List.length_cons, List.length_nil]
    omega
  · have hlen := (h.pairs p hp).short
    simp only [pairLine, List.length_append, List.length_cons, List.length_nil]
    omega

/-! ### Nothing else is -/

theorem mem_entriesFrom_pairsLines : ∀ {ps : List Pair} {r : Reader}, CleanReader r →
    ∀ e ∈ r.entriesFrom (pairsLines ps), ∃ p ∈ ps, ∃ r' : Reader, CleanReader r' ∧
      e ∈ r'.entriesFrom (lines (MAX_CHUNK - 1) (pairText p.name p.value))
  | [], _, _, _, he => (List.not_mem_nil he).elim
  | p :: ps, r, hr, e, he => by
    rw [pairsLines, List.flatMap_cons, Reader.entriesFrom_append] at he
    rcases List.mem_append.mp he with he | he
    · exact ⟨p, List.mem_cons_self, r, hr, he⟩
    · obtain ⟨q, hq, r', hr', he'⟩ :=
        mem_entriesFrom_pairsLines (Reader.after_clean hr (cleanLines_lines _)) e he
      exact ⟨q, List.mem_cons_of_mem _ hq, r', hr', he'⟩

/-- A pair of what an entry can have. -/
structure CleanPair (p : Pair) : Prop where
  name : CleanName p.name
  value : PlainValue p.value
  short : p.name.length < MAX_CHUNK ∧ p.name.length + 1 + p.value.length < 2 * MAX_CHUNK - 4

theorem CleanEntry.pair {e : Entry} (h : CleanEntry MAX_CHUNK e) : CleanPair ⟨e.name, e.value⟩ := by
  have hmax : MAX_CHUNK = 199 := rfl
  have hname : MAX_NAME = 50 := rfl
  refine ⟨h.name, h.value, ?_⟩
  have := h.size
  dsimp only
  omega

/-- If the pairs are read back, then each is plain: the line of a pair is first read as its name
with some value that fits. -/
theorem plain_of_pairsLines : ∀ {ps : List Pair} {r : Reader}, CleanReader r →
    r.sect = ascii "info" → (∀ p ∈ ps, CleanPair p) →
      (r.entriesFrom (pairsLines ps)).filterMap pairOf = ps → ∀ p ∈ ps, PlainPair p
  | [], _, _, _, _, _, _, hp => (List.not_mem_nil hp).elim
  | p :: ps, r, hr, hsect, hclean, hread, q, hq => by
    have hp := hclean p List.mem_cons_self
    obtain ⟨w, es, hline, hlen, -⟩ := r.entriesFrom_pairText hr hp.name hp.value hp.short.1
    rw [pairsLines, List.flatMap_cons, Reader.entriesFrom_append, hline, List.cons_append,
      List.filterMap_cons_some (pairOf_info hsect)] at hread
    have hfirst := (List.cons.inj hread).1
    obtain ⟨hname, hw⟩ := Pair.mk.injEq .. ▸ hfirst
    have hplain : PlainPair p := by
      refine ⟨hname ▸ hp.name.plain_rstrip, hp.value, ?_⟩
      rw [← hw]
      exact hlen
    -- the line gives nothing but the pair
    obtain ⟨hone, hnext⟩ := r.entriesFrom_plain hplain.name hplain.value hplain.short
    have hes : es = [] := (List.cons.inj (hline.symm.trans hone)).2
    rw [hes, List.nil_append, hnext] at hread
    rcases List.mem_cons.mp hq with rfl | hq
    · exact hplain
    · refine plain_of_pairsLines (r := { r with prevName := p.name.take (MAX_NAME - 1) })
        ⟨?_, ?_⟩ hsect
        (fun p' hp' => hclean p' (List.mem_cons_of_mem _ hp')) (List.cons.inj hread).2 q hq
      · exact hplain.name.toCleanName.of_isPrefix (List.take_prefix _ _)
      · exact (List.length_take_le _ _).trans_lt (by decide)

/-- A name that is read is short: the longer a line is, the less of it is read at once. -/
theorem plainAccount_of_mem {u : User} (hclean : ∀ p ∈ u.additional, CleanPair p) {e : Entry}
    (he : e ∈ entries (fileOf u)) (hname : e.name = ascii "name") (hvalue : e.value = u.name) :
    PlainAccount u.name := by
  have hmax : MAX_CHUNK = 199 := rfl
  have hfour : (ascii "name").length = 4 := by decide
  have hU := (entries_clean _ e he).value
  rw [hvalue] at hU
  refine ⟨hU, ?_⟩
  rw [entries_fileOf] at he
  rcases List.mem_append.mp he with he | he
  · obtain ⟨w, es, hline, hlen, hes⟩ := Reader.entriesFrom_pairText (r := atName)
      ⟨CleanName.nil, by decide⟩ plainName_name.toCleanName hU (by decide)
    rw [hline] at he
    rcases List.mem_cons.mp he with rfl | he
    · dsimp only at hvalue
      rw [hvalue] at hlen
      omega
    · have hlate := hes e he
      rw [hvalue] at hlate
      omega
  · obtain ⟨p, hp, r, hr, he⟩ := mem_entriesFrom_pairsLines (r := atInfo)
      ⟨CleanName.nil, by decide⟩ e he
    have hp := hclean p hp
    obtain ⟨w, es, hline, hlen, hes⟩ := r.entriesFrom_pairText hr hp.name hp.value hp.short.1
    have hshort := hp.short.2
    rw [hline] at he
    rcases List.mem_cons.mp he with rfl | he
    · have hstrip := (rstrip_isPrefix p.name).length_le
      dsimp only at hname hvalue
      rw [hname] at hstrip
      rw [hvalue] at hlen
      omega
    · have hlate := hes e he
      rw [hvalue] at hlate
      omega

/-- **Which records are written and read back.** -/
theorem roundTrips_iff (u : User) : RoundTrips u ↔ ReadsBack u := by
  constructor
  · rintro ⟨-, hread⟩
    rw [parseFile_eq] at hread
    obtain ⟨hname, hpairs⟩ := Loaded.mk.injEq .. ▸ hread
    -- what is read is clean
    obtain ⟨e, he, hnameOf⟩ := List.mem_filterMap.mp (List.mem_of_getLast? hname)
    have hclean : ∀ p ∈ u.additional, CleanPair p := by
      intro p hp
      rw [← hpairs] at hp
      obtain ⟨e', he', hpair⟩ := List.mem_filterMap.mp hp
      unfold pairOf at hpair
      split_ifs at hpair
      obtain rfl := Option.some.inj hpair
      exact CleanEntry.pair (entries_clean _ e' he')
    unfold nameOf at hnameOf
    split_ifs at hnameOf with hid
    have haccount := plainAccount_of_mem hclean he hid.2 (Option.some.inj hnameOf)
    obtain ⟨hline, -⟩ := atName.entriesFrom_plain plainName_name haccount.value haccount.short
    refine ⟨haccount, plain_of_pairsLines (r := atInfo) ⟨CleanName.nil, by decide⟩ rfl hclean ?_⟩
    rwa [entries_fileOf, hline, List.singleton_append,
      List.filterMap_cons_none (pairOf_identify rfl)] at hpairs
  · intro h
    refine ⟨?_, readsBack_parse h⟩
    rw [userBytes_eq, if_pos h.fits]

set_option maxRecDepth 4000 in
/-- A value with a newline is read as two pairs. -/
theorem not_roundTrips_newline : ¬∀ u : User, RoundTrips u :=
  fun h => absurd (h ⟨ascii "eve", [⟨ascii "icon", ascii "a\nb=c"⟩]⟩) (by decide)

end Spawny.UserDb.RoundTrip
