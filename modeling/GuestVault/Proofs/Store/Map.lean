import GuestVault.Proofs.Store.Contents
import GuestVault.Proofs.Stream.Delivery

/-!
# A store as a map

Whatever records a store is offered, and however their readers end, it holds one file under each name
that a record was stored under, with the data of the last one.

1. `offer_holds`: what becomes of one record. It is stored exactly if a file can have its name and its
   reader has no fault.
2. `Mirrors.filesAfter`: with one record more, the files still are what was stored last.
3. `offerAll_holds`: so they are after any series of records.
4. `Mirrors.exists_listing`: the records that the store lists are these files, in the order of their
   names.
5. `offerAll_listed`: what a store lists after any series of records.
-/

namespace GuestVault

open GuestVault.Text

namespace DirectoryStore

open FileTree

variable {store : DirectoryStore} {t t' : FileTree} {dir : Location}
  {files : List (String × Bytes)} {pathname name : String} {body : Bytes}

/-! ## Names -/

/-- The name begins like a temporary one. -/
def IsTemporary (name : String) : Prop :=
  temporaryPrefix.toList <+: name.toList

instance (name : String) : Decidable (IsTemporary name) :=
  inferInstanceAs (Decidable (temporaryPrefix.toList <+: name.toList))

theorem isTemporary_temporary (name : String) : IsTemporary (temporaryPrefix ++ name) := by
  unfold IsTemporary
  rw [String.toList_append]
  exact List.prefix_append _ _

theorem dropFront?_isNone_iff : (dropFront? temporaryPrefix.toList name.toList).isNone = true ↔
    ¬ IsTemporary name := by
  rw [Option.isNone_iff_eq_none, Option.eq_none_iff_forall_ne_some]
  exact not_exists.symm.trans
    (not_congr (exists_congr fun _ => dropFront?_eq_some_iff.trans eq_comm))

/-- Either a name means nothing, or a record is stored under it. -/
theorem nameOf_cases (pathname : String) :
    (basename pathname ∈ ["", ".", ".."] ∧
      nameOf pathname = .error (.text ("invalid record name: " ++ quoted pathname))) ∨
    (basename pathname ∉ ["", ".", ".."] ∧ nameOf pathname = .ok (basename pathname)) := by
  have hmem : basename pathname ∈ ["", ".", ".."] ↔
      basename pathname = "" ∨ basename pathname = "." ∨ basename pathname = ".." := by
    simp
  rw [hmem]
  unfold nameOf
  dsimp only
  by_cases hname : basename pathname = "" ∨ basename pathname = "." ∨ basename pathname = ".."
  · exact Or.inl ⟨hname, if_pos hname⟩
  · exact Or.inr ⟨hname, if_neg hname⟩

theorem slash_notMem_basename (pathname : String) : '/' ∉ (basename pathname).toList := by
  unfold basename
  rw [String.toList_ofList]
  exact slash_notMem_baseChars _

theorem storable_basename_iff : Storable (basename pathname) ↔
    basename pathname ∉ ["", ".", ".."] ∧ ¬ holdsNul (basename pathname) ∧
      (utf8 (temporaryPrefix ++ basename pathname)).length ≤ maxNameLength := by
  constructor
  · intro h
    refine ⟨?_, h.nul_free, h.length_le⟩
    simp [h.ne_empty, h.ne_dot, h.ne_dots]
  · rintro ⟨hname, hnul, hlength⟩
    simp only [List.mem_cons, List.not_mem_nil, or_false, not_or] at hname
    exact ⟨slash_notMem_basename pathname, hname.1, hname.2.1, hname.2.2, hnul, hlength⟩

/-! ## One record -/

theorem put_of_nul {ρ : Type} [ByteSource ρ] (reader : ρ) (hpath : nameOf pathname = .ok name)
    (hnul : holdsNul name) : ∃ f, store.put pathname reader t = ((.error f, reader), t) := by
  refine ⟨.context ("create " ++ store.path (temporaryPrefix ++ name)) (.io .nulInPath), ?_⟩
  unfold DirectoryStore.put
  rw [hpath]
  exact if_pos hnul

theorem put_of_long {ρ : Type} [ByteSource ρ] (reader : ρ) (h : Holds store t dir files)
    (hpath : nameOf pathname = .ok name) (hnul : ¬ holdsNul name) (hslash : '/' ∉ name.toList)
    (hlong : maxNameLength < (utf8 (temporaryPrefix ++ name)).length) :
    ∃ f, store.put pathname reader t = ((.error f, reader), t) := by
  have hbyte := slash_notMem_temporary hslash
  have hnil : utf8 (temporaryPrefix ++ name) ≠ [] :=
    List.ne_nil_of_length_pos (Nat.lt_of_le_of_lt (Nat.zero_le _) hlong)
  have hlocate (follow : Bool) :
      t.locate follow (.ofText (store.path (temporaryPrefix ++ name))) = .error .nameTooLong :=
    locate_joinPath_of_long hbyte hlong h.find
  have hdiscard : discard (store.path (temporaryPrefix ++ name)) t = t := by
    unfold discard removeFile find
    rw [hlocate false]
    rfl
  refine ⟨.context ("create " ++ store.path (temporaryPrefix ++ name)) (.io (.os .nameTooLong)), ?_⟩
  unfold DirectoryStore.put fill
  rw [hpath]
  dsimp only
  rw [if_neg hnul, create_of_error (h.toDirectory hbyte hnil) (hlocate true)]
  dsimp only [osFailure]
  rw [hdiscard]

/-- A record that a store was offered, and its answer. -/
structure Offer where
  record : Record Script
  answer : Except Failure Nat

/-- Offers a record to a store. -/
def offer (store : DirectoryStore) (record : Record Script) (t : FileTree) : Offer × FileTree :=
  let result := store.put record.pathname record.reader t
  ({ record, answer := result.1.1 }, result.2)

namespace Offer

/-- The store has taken the record. -/
def IsStored (o : Offer) : Prop :=
  ∃ n, o.answer = .ok n

/-- The answer is the right one: a name that means nothing is refused, and the length is given exactly
for a record that can be stored and read to its end. -/
structure Proper (o : Offer) : Prop where
  refused : o.record.name ∈ ["", ".", ".."] →
    o.answer = .error (.text ("invalid record name: " ++ quoted o.record.pathname))
  answer_eq_ok_iff : ∀ n, o.answer = .ok n ↔
    Storable o.record.name ∧ o.record.reader.fault? = none ∧
      n = o.record.reader.delivered.length

/-- The files of a store after its answer. -/
def filesAfter (o : Offer) (files : List (String × Bytes)) : List (String × Bytes) :=
  match o.answer with
  | .ok _ => (o.record.name, o.record.reader.delivered) ::
      files.filter fun file => file.1 ≠ o.record.name
  | .error _ => files

end Offer

theorem offer_of_error {record : Record Script} {reader' : Script} {f : Failure}
    (hput : store.put record.pathname record.reader t = ((.error f, reader'), t'))
    (hname : record.name ∈ ["", ".", ".."] →
      f = .text ("invalid record name: " ++ quoted record.pathname))
    (hfit : ¬ (Storable record.name ∧ record.reader.fault? = none))
    (hholds : Holds store t' dir files) :
    (store.offer record t).1.Proper ∧
      Holds store (store.offer record t).2 dir ((store.offer record t).1.filesAfter files) := by
  unfold offer
  rw [hput]
  exact ⟨⟨fun h => congrArg Except.error (hname h),
    fun n => iff_of_false nofun fun h => hfit ⟨h.1, h.2.1⟩⟩, hholds⟩

/-- A record with a name that fits is stored as a whole, or not at all. -/
theorem offer_of_storable (h : Holds store t dir files)
    (hfiles : ∀ file ∈ files, ¬ IsTemporary file.1) {record : Record Script}
    (hstorable : Storable record.name) (hpath : nameOf record.pathname = .ok record.name) :
    (store.offer record t).1.Proper ∧
      Holds store (store.offer record t).2 dir ((store.offer record t).1.filesAfter files) := by
  have hname := (storable_basename_iff.mp hstorable).1
  have hclean : (files.filter fun file => file.1 ≠ temporaryPrefix ++ record.name) = files :=
    List.filter_eq_self.mpr fun file hfile => decide_eq_true fun heq =>
      hfiles file hfile (heq ▸ isTemporary_temporary _)
  obtain ⟨hbytes, hresult⟩ := record.reader.readToEnd_script
  obtain ⟨result, data, reader', hread⟩ :
      ∃ result data reader', readToEnd record.reader = (result, data, reader') := ⟨_, _, _, rfl⟩
  rw [hread] at hbytes hresult
  cases hfault : record.reader.fault? with
  | none =>
    rw [hfault] at hresult
    obtain rfl : data = record.reader.delivered :=
      hbytes.trans (Script.delivered_eq hfault).symm
    obtain rfl : result = .ok () := hresult
    obtain ⟨t', hput, hholds⟩ := put_holds h hstorable hpath hread
    rw [hclean] at hholds
    unfold offer
    rw [hput]
    refine ⟨⟨fun hbad => absurd hbad hname, fun n => ?_⟩, hholds⟩
    exact ⟨fun heq => ⟨hstorable, hfault, (Except.ok.inj heq).symm⟩,
      fun heq => congrArg _ heq.2.2.symm⟩
  | some e =>
    rw [hfault] at hresult
    obtain rfl : result = .error e := hresult
    obtain ⟨f, t', hput, hholds⟩ := put_holds_of_error h hstorable hpath hread
    rw [hclean] at hholds
    refine offer_of_error hput (fun hbad => absurd hbad hname) (fun hfit => ?_) hholds
    rw [hfault] at hfit
    cases hfit.2

/-- **What becomes of one record**: it takes the place of any file of its name, or nothing changes. -/
theorem offer_holds (h : Holds store t dir files) (hfiles : ∀ file ∈ files, ¬ IsTemporary file.1)
    (record : Record Script) :
    (store.offer record t).1.Proper ∧
      Holds store (store.offer record t).2 dir ((store.offer record t).1.filesAfter files) := by
  rcases nameOf_cases record.pathname with ⟨hname, hpath⟩ | ⟨hname, hpath⟩
  · have hput : store.put record.pathname record.reader t =
        ((.error (.text ("invalid record name: " ++ quoted record.pathname)), record.reader), t) := by
      unfold DirectoryStore.put
      rw [hpath]
    exact offer_of_error hput (fun _ => rfl)
      (fun hfit => (storable_basename_iff.mp hfit.1).1 hname) h
  by_cases hnul : holdsNul record.name
  · obtain ⟨f, hput⟩ := put_of_nul record.reader hpath hnul
    exact offer_of_error hput (fun hbad => absurd hbad hname) (fun hfit => hfit.1.nul_free hnul) h
  by_cases hlength : (utf8 (temporaryPrefix ++ record.name)).length ≤ maxNameLength
  · exact offer_of_storable h hfiles (storable_basename_iff.mpr ⟨hname, hnul, hlength⟩) hpath
  · obtain ⟨f, hput⟩ := put_of_long record.reader h hpath hnul (slash_notMem_basename _)
      (Nat.not_le.mp hlength)
    exact offer_of_error hput (fun hbad => absurd hbad hname)
      (fun hfit => hlength hfit.1.length_le) h

/-! ## The last record of a name -/

/-- The last record that was stored under a name had this body. -/
def StoredLast (history : List Offer) (name : String) (body : Bytes) : Prop :=
  ∃ earlier o later, history = earlier ++ o :: later ∧ o.IsStored ∧ o.record.name = name ∧
    o.record.reader.delivered = body ∧ ∀ o' ∈ later, o'.record.name = name → ¬ o'.IsStored

theorem not_storedLast_nil : ¬ StoredLast [] name body := by
  rintro ⟨earlier, o, later, hsplit, -⟩
  exact absurd hsplit.symm (by simp)

variable {history : List Offer} {o : Offer}

theorem storedLast_concat_self (hstored : o.IsStored) :
    StoredLast (history ++ [o]) o.record.name body ↔ o.record.reader.delivered = body := by
  constructor
  · rintro ⟨earlier, o', later, hsplit, -, -, hbody, hlater⟩
    rcases List.eq_nil_or_concat later with rfl | ⟨later, o'', rfl⟩
    · obtain ⟨-, hlast⟩ := List.append_inj' hsplit rfl
      obtain rfl := (List.cons.inj hlast).1
      exact hbody
    · rw [List.concat_eq_append, ← List.cons_append, ← List.append_assoc] at hsplit
      obtain ⟨-, hlast⟩ := List.append_inj' hsplit rfl
      obtain rfl := (List.cons.inj hlast).1
      exact absurd hstored (hlater o (by simp) rfl)
  · intro hbody
    exact ⟨history, o, [], rfl, hstored, rfl, hbody, nofun⟩

theorem storedLast_concat_of_not (hnot : ¬ (o.IsStored ∧ o.record.name = name)) :
    StoredLast (history ++ [o]) name body ↔ StoredLast history name body := by
  constructor
  · rintro ⟨earlier, o', later, hsplit, hstored, hname, hbody, hlater⟩
    rcases List.eq_nil_or_concat later with rfl | ⟨later, o'', rfl⟩
    · obtain ⟨-, hlast⟩ := List.append_inj' hsplit rfl
      obtain rfl := (List.cons.inj hlast).1
      exact absurd ⟨hstored, hname⟩ hnot
    · rw [List.concat_eq_append, ← List.cons_append, ← List.append_assoc] at hsplit
      obtain ⟨hfront, -⟩ := List.append_inj' hsplit rfl
      refine ⟨earlier, o', later, hfront, hstored, hname, hbody, fun x hx => hlater x ?_⟩
      rw [List.concat_eq_append]
      exact List.mem_append_left _ hx
  · rintro ⟨earlier, o', later, rfl, hstored, hname, hbody, hlater⟩
    refine ⟨earlier, o', later ++ [o], by simp, hstored, hname, hbody, fun x hx hxname hx' => ?_⟩
    rcases List.mem_append.mp hx with hx | hx
    · exact hlater x hx hxname hx'
    · obtain rfl := List.mem_singleton.mp hx
      exact hnot ⟨hx', hxname⟩

/-! ## Any series of records -/

/-- These files are the last record of each name. -/
structure Mirrors (history : List Offer) (files : List (String × Bytes)) : Prop where
  nodup : (files.map (·.1)).Nodup
  storable : ∀ file ∈ files, Storable file.1
  permanent : ∀ file ∈ files, ¬ IsTemporary file.1
  lookup_iff : ∀ name body, files.lookup name = some body ↔ StoredLast history name body

theorem mirrors_nil : Mirrors [] [] where
  nodup := List.nodup_nil
  storable := nofun
  permanent := nofun
  lookup_iff _ _ := iff_of_false nofun not_storedLast_nil

theorem Mirrors.refuse (h : Mirrors history files) (hnot : ¬ o.IsStored) :
    Mirrors (history ++ [o]) files where
  nodup := h.nodup
  storable := h.storable
  permanent := h.permanent
  lookup_iff name body := by
    rw [storedLast_concat_of_not fun hself => hnot hself.1, h.lookup_iff]

theorem Mirrors.replace (h : Mirrors history files) (hstored : o.IsStored)
    (hstorable : Storable o.record.name) (hpermanent : ¬ IsTemporary o.record.name) :
    Mirrors (history ++ [o]) ((o.record.name, o.record.reader.delivered) ::
      files.filter fun file => file.1 ≠ o.record.name) where
  nodup := by
    rw [List.map_cons, List.nodup_cons]
    refine ⟨fun hmem => ?_, h.nodup.sublist (List.filter_sublist.map _)⟩
    obtain ⟨file, hfile, hname⟩ := List.mem_map.mp hmem
    exact of_decide_eq_true (List.mem_filter.mp hfile).2 hname
  storable := List.forall_mem_cons.mpr
    ⟨hstorable, fun file hfile => h.storable file (List.mem_filter.mp hfile).1⟩
  permanent := List.forall_mem_cons.mpr
    ⟨hpermanent, fun file hfile => h.permanent file (List.mem_filter.mp hfile).1⟩
  lookup_iff name body := by
    by_cases hname : name = o.record.name
    · subst hname
      rw [List.lookup_cons_self, Option.some.injEq, storedLast_concat_self hstored]
    · have hother : ¬ (o.IsStored ∧ o.record.name = name) := fun hself => hname hself.2.symm
      rw [List.lookup_cons, beq_false_of_ne hname, storedLast_concat_of_not hother, ← h.lookup_iff]
      exact iff_of_eq (congrArg (· = some body) (lookup_filter_ne files hname))

/-- With one record more, the files still are the last record of each name. -/
theorem Mirrors.filesAfter (h : Mirrors history files) (hproper : o.Proper)
    (hrecord : ¬ IsTemporary o.record.name) :
    Mirrors (history ++ [o]) (o.filesAfter files) := by
  unfold Offer.filesAfter
  cases hanswer : o.answer with
  | error f =>
    refine h.refuse fun ⟨n, hn⟩ => ?_
    rw [hanswer] at hn
    cases hn
  | ok n => exact h.replace ⟨n, hanswer⟩ ((hproper.answer_eq_ok_iff n).mp hanswer).1 hrecord

/-- Offers some records to a store, one after the other. -/
def offerAll (store : DirectoryStore) : List (Record Script) → FileTree → List Offer × FileTree
  | [], t => ([], t)
  | record :: rest, t =>
    let first := store.offer record t
    let others := offerAll store rest first.2
    (first.1 :: others.1, others.2)

/-- **However many records are offered**, a store holds the last one of each name. -/
theorem offerAll_holds {records : List (Record Script)}
    (hrecords : ∀ record ∈ records, ¬ IsTemporary record.name) (h : Mirrors history files)
    (hholds : Holds store t dir files) :
    (store.offerAll records t).1.map (·.record) = records ∧
      (∀ o ∈ (store.offerAll records t).1, o.Proper) ∧
      ∃ files', Holds store (store.offerAll records t).2 dir files' ∧
        Mirrors (history ++ (store.offerAll records t).1) files' := by
  induction records generalizing history files t with
  | nil =>
    refine ⟨rfl, nofun, files, hholds, ?_⟩
    rwa [offerAll, List.append_nil]
  | cons record rest ih =>
    obtain ⟨hrecord, hrest⟩ := List.forall_mem_cons.mp hrecords
    obtain ⟨hproper, hholds₁⟩ := offer_holds hholds h.permanent record
    obtain ⟨hmap, hall, files', hholds', hmirrors'⟩ :=
      ih hrest (h.filesAfter hproper hrecord) hholds₁
    rw [List.append_assoc, List.singleton_append] at hmirrors'
    exact ⟨congrArg (record :: ·) hmap, List.forall_mem_cons.mpr ⟨hproper, hall⟩, files', hholds',
      hmirrors'⟩

/-! ## What is listed -/

/-- The records of a store, each opened when its turn comes. -/
def records (store : DirectoryStore) (t : FileTree) :
    Except Failure (List (Except Failure (Record Script))) :=
  (store.names t).map fun names => names.map (store.record · t)

/-- The record of a file. -/
def recordOf (file : String × Bytes) : Record Script :=
  { pathname := "/" ++ file.1, reader := .ofBytes file.2 }

/-- The store lists the records of these files, and opens each. -/
def Lists (store : DirectoryStore) (t : FileTree) (listed : List (String × Bytes)) : Prop :=
  store.records t = .ok (listed.map fun file => .ok (recordOf file))

theorem mem_keys_iff {files : List (String × Bytes)} :
    name ∈ files.map (·.1) ↔ ∃ body, files.lookup name = some body := by
  induction files with
  | nil => simp
  | cons file rest ih =>
    rw [List.map_cons, List.mem_cons, ih, List.lookup_cons]
    by_cases hname : name = file.1
    · simp [hname]
    · simp [hname, beq_false_of_ne hname]

/-- **A store lists what was stored last under each name**, in the order of the names. -/
theorem Mirrors.exists_listing (h : Mirrors history files) (hholds : Holds store t dir files) :
    ∃ listed, Lists store t listed ∧ listed.Pairwise (fun a b => utf8 a.1 < utf8 b.1) ∧
      ∀ name body, (name, body) ∈ listed ↔ StoredLast history name body := by
  let names := (files.map (·.1)).mergeSort
  let fileOf (name : String) : String × Bytes := (name, (files.lookup name).getD [])
  have hmem (name : String) : name ∈ names ↔ ∃ body, files.lookup name = some body :=
    (List.mem_mergeSort ..).trans mem_keys_iff
  have hnames : store.names t = .ok names := by
    rw [names_eq store hholds.find, hholds.fileNames_eq, List.filter_eq_self.mpr]
    intro name hname
    obtain ⟨file, hfile, rfl⟩ := List.mem_map.mp hname
    exact dropFront?_isNone_iff.mpr (h.permanent file hfile)
  have hrecord (name : String) (hname : name ∈ names) :
      store.record name t = .ok (recordOf (fileOf name)) := by
    obtain ⟨body, hbody⟩ := (hmem name).mp hname
    obtain ⟨file, hfile, rfl⟩ := List.mem_map.mp (mem_keys_iff.mpr ⟨body, hbody⟩)
    rw [hholds.record (h.storable file hfile).ordinary hbody]
    simp [recordOf, fileOf, hbody]
  refine ⟨names.map fileOf, ?_, ?_, fun name body => ?_⟩
  · unfold Lists records
    rw [hnames, List.map_map]
    exact congrArg Except.ok (List.map_congr_left hrecord)
  · have hdistinct : names.Nodup := (List.mergeSort_perm _ _).nodup_iff.mpr h.nodup
    rw [List.pairwise_map]
    exact ((pairwise_sorted _).and hdistinct).imp fun hboth =>
      utf8_lt_utf8 (Std.lt_of_le_of_ne hboth.1 hboth.2)
  · rw [← h.lookup_iff, List.mem_map]
    constructor
    · rintro ⟨name, hname, heq⟩
      obtain ⟨body, hbody⟩ := (hmem name).mp hname
      cases heq
      rw [hbody]
      rfl
    · intro hbody
      exact ⟨name, (hmem name).mpr ⟨body, hbody⟩, by simp [fileOf, hbody]⟩

/-- **A store is a map from names to the data of their last records.** However many records an empty
store is offered, under whatever paths and with whatever readers, none of them under a temporary name:

* each is answered properly, so a name that means nothing is refused, and a record whose name a file
  can have is stored exactly if it can be read to its end, and its length is given;
* what is listed then are the names under which something was stored, in the order of their bytes, each
  with the data that was stored last;
* and no other record, be it stored or not, changes what is listed under another name than its own. -/
theorem offerAll_listed (hempty : Holds store t dir []) {records : List (Record Script)}
    (hrecords : ∀ record ∈ records, ¬ IsTemporary record.name) :
    (store.offerAll records t).1.map (·.record) = records ∧
      (∀ o ∈ (store.offerAll records t).1, o.Proper) ∧
      ∃ listed, Lists store (store.offerAll records t).2 listed ∧
        listed.Pairwise (fun a b => utf8 a.1 < utf8 b.1) ∧
        (∀ name body,
          (name, body) ∈ listed ↔ StoredLast (store.offerAll records t).1 name body) ∧
        ∀ other : Record Script, ¬ IsTemporary other.name →
          ∃ listed', Lists store (store.offer other (store.offerAll records t).2).2 listed' ∧
            ∀ file, file.1 ≠ other.name → (file ∈ listed' ↔ file ∈ listed) := by
  obtain ⟨hmap, hproper, files, hholds, hmirrors⟩ := offerAll_holds hrecords mirrors_nil hempty
  rw [List.nil_append] at hmirrors
  obtain ⟨listed, hlists, hsorted, hlisted⟩ := hmirrors.exists_listing hholds
  refine ⟨hmap, hproper, listed, hlists, hsorted, hlisted, fun other hother => ?_⟩
  obtain ⟨hproper', hholds'⟩ := offer_holds hholds hmirrors.permanent other
  obtain ⟨listed', hlists', -, hlisted'⟩ :=
    (hmirrors.filesAfter hproper' hother).exists_listing hholds'
  refine ⟨listed', hlists', fun file hfile => ?_⟩
  rw [hlisted', hlisted]
  exact storedLast_concat_of_not fun hself => hfile hself.2.symm

/-- Three records of one name, the last of which breaks off, and one without a name. -/
def fewRecords : List (Record Script) :=
  [{ pathname := "/b.vma", reader := [.data [1, 2]] },
    { pathname := "x/b.vma", reader := [.data [3], .fail (.plain .interrupted), .data [4]] },
    { pathname := "b.vma", reader := [.data [5], .fail (.os .noSpace)] },
    { pathname := "x/..", reader := [.data [6]] }]

theorem offerAll_listed_fewRecords :
    let store : DirectoryStore := { root := "/store" }
    let t : FileTree := { entries := [([utf8 "store"], .directory)] }
    Holds store t [utf8 "store"] [] ∧ (∀ record ∈ fewRecords, ¬ IsTemporary record.name) ∧
      ∃ listed, Lists store (store.offerAll fewRecords t).2 listed ∧ ("b.vma", [3, 4]) ∈ listed := by
  intro store t
  have hempty : Holds store t [utf8 "store"] [] := ⟨by decide +kernel, by decide +kernel⟩
  have hrecords : ∀ record ∈ fewRecords, ¬ IsTemporary record.name := by decide +kernel
  obtain ⟨hmap, hproper, listed, hlists, -, hlisted, -⟩ := offerAll_listed hempty hrecords
  generalize (store.offerAll fewRecords t).1 = history at hmap hproper hlisted
  obtain ⟨first, rest, rfl, -, hmap⟩ := List.map_eq_cons_iff.mp hmap
  obtain ⟨second, rest, rfl, hsecond, hmap⟩ := List.map_eq_cons_iff.mp hmap
  obtain ⟨third, rest, rfl, hthird, hmap⟩ := List.map_eq_cons_iff.mp hmap
  obtain ⟨fourth, hrest, hfourth⟩ := List.map_eq_singleton_iff.mp hmap
  have hanswer : second.answer = .ok 2 := by
    rw [(hproper second (by simp)).answer_eq_ok_iff, hsecond]
    exact ⟨storable_basename_iff.mpr ⟨by decide +kernel, by decide +kernel, by decide +kernel⟩,
      by decide, by decide⟩
  refine ⟨hempty, hrecords, listed, hlists, (hlisted _ _).mpr
    ⟨[first], second, third :: rest, rfl, ⟨2, hanswer⟩, ?_, ?_, fun o ho hname hstored => ?_⟩⟩
  · rw [hsecond]
    decide +kernel
  · rw [hsecond]
    rfl
  · obtain ⟨n, hn⟩ := hstored
    have hfit := ((hproper o (by simp [List.mem_cons.mp ho])).answer_eq_ok_iff n).mp hn
    rw [hrest] at ho
    rcases List.mem_pair.mp ho with rfl | rfl
    · rw [hthird] at hfit
      exact absurd hfit.2.1 (by decide)
    · rw [hfourth] at hname
      exact absurd hname (by decide +kernel)

end DirectoryStore

end GuestVault
