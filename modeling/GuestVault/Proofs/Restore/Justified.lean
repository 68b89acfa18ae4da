import GuestVault.Proofs.Restore.Accounting
import GuestVault.Proofs.Restore.Condemned
import GuestVault.Proofs.Restore.Traces

/-!
# What a restore does is justified

Whatever a restore asks of the host and of the guests belongs to one pair of records that were fed
before, and no record is used twice. The proof keeps a ledger with an entry for each record that is fed
(`Entry`, `exists_ledger`):

1. `Reacts.positions`: the positions of the records that wait are known, so what is settled is told by
   positions, and no position is settled twice.
2. `enact_adds`: what an entry asks for is asked for by its pair.
3. `pair_ne_of_condemns`: after metadata of an archive was turned away, or the archive itself was
   filtered out, there is no pair of that archive.
-/

namespace GuestVault.Correlator

open GuestVault.Text

attribute [local irreducible] react judgeSidecar judgePayload RecordClass.ofName

variable {σ κ ρ : Type} [ByteSource ρ] {settings : RestoreSettings} {c : Correlator ρ}
  {record : Record ρ} {reply : Reply ρ} {fed : List (Record ρ)} {archive : String}
  {join : PairJoin (Record ρ) (String × Metadata)} {place : String → Nat}

/-! ## Positions -/

/-- Every half that waits is the record at its place, and a good one. -/
def Located (settings : RestoreSettings) (fed : List (Record ρ))
    (join : PairJoin (Record ρ) (String × Metadata)) (place : String → Nat) : Prop :=
  ∀ archive half, join.get? archive = some half →
    ∃ record, fed[place archive]? = some record ∧ IsHalf settings record archive half

/-- The places of all halves that wait. -/
def places (join : PairJoin (Record ρ) (String × Metadata)) (place : String → Nat) : List Nat :=
  join.entries.map fun e => place e.1

theorem Located.backed (h : Located settings fed join place) : Backed settings fed join := by
  intro archive half hget
  obtain ⟨record, hrecord, hhalf⟩ := h archive half hget
  exact ⟨record, List.mem_of_getElem? hrecord, hhalf⟩

theorem Located.snoc (h : Located settings fed join place) (record : Record ρ) :
    Located settings (fed ++ [record]) join place := by
  intro archive half hget
  obtain ⟨other, hother, hhalf⟩ := h archive half hget
  obtain ⟨hlt, -⟩ := List.getElem?_eq_some_iff.mp hother
  exact ⟨other, by rw [List.getElem?_append_left hlt, hother], hhalf⟩

theorem Located.erase (h : Located settings fed join place) (archive : String) :
    Located settings fed (join.erase archive) place := by
  intro other half hget
  rw [PairJoin.get?_erase] at hget
  by_cases hother : other = archive
  · rw [if_pos hother] at hget
    cases hget
  · rw [if_neg hother] at hget
    exact h other half hget

theorem Located.insert {half : Side (Record ρ) (String × Metadata)}
    (h : Located settings fed join place) (hhalf : IsHalf settings record archive half) :
    Located settings (fed ++ [record]) (join.insert archive half)
      (Function.update place archive fed.length) := by
  intro other held hget
  rw [PairJoin.get?_insert] at hget
  by_cases hother : other = archive
  · rw [if_pos hother, Option.some.injEq] at hget
    subst hother hget
    exact ⟨record, by rw [Function.update_self, List.getElem?_concat_length], hhalf⟩
  · rw [if_neg hother] at hget
    rw [Function.update_of_ne hother]
    exact h.snoc record other held hget

omit [ByteSource ρ] in
theorem places_perm_erase {half : Side (Record ρ) (String × Metadata)} (hasc : join.Ascending)
    (hget : join.get? archive = some half) (place : String → Nat) :
    (places join place).Perm (place archive :: places (join.erase archive) place) :=
  (PairJoin.entries_perm_erase hasc hget).map _

omit [ByteSource ρ] in
theorem places_insert_perm {half : Side (Record ρ) (String × Metadata)}
    (hget : join.get? archive = none) (place : String → Nat) (n : Nat) :
    (places (join.insert archive half) (Function.update place archive n)).Perm
      (n :: places join place) := by
  have hkept : join.entries.map (fun e => Function.update place archive n e.1) =
      places join place := by
    refine List.map_congr_left fun e he => ?_
    have hne : archive ≠ e.1 := by simpa using List.lookup_eq_none_iff.mp hget e he
    rw [Function.update_of_ne hne.symm]
  have hadded : (join.insert archive half).entries.Perm ((archive, half) :: join.entries) :=
    PairJoin.entries_insert_perm hget
  have hperm := hadded.map fun e => Function.update place archive n e.1
  rw [List.map_cons, Function.update_self, hkept] at hperm
  exact hperm

/-! ## What is settled -/

/-- The pair is made of the archive at one position and of the metadata at another. -/
structure Pair.MadeOf (pair : Pair ρ) (fed : List (Record ρ)) (payload sidecar : Nat) : Prop where
  payload_at : fed[payload]? = some pair.payload
  payload_class : RecordClass.ofName pair.payload.name = .payload
  payload_name : pair.payload.name = pair.archive
  sidecar_at : ∃ record, fed[sidecar]? = some record ∧ record.pathname = pair.sidecar ∧
    RecordClass.ofName record.name = .sidecar pair.archive ∧
    Metadata.decode record.reader = .ok pair.metadata

theorem Pair.madeOf {pair : Pair ρ} {i j : Nat} {payload sidecar : Record ρ}
    (hpayload : fed[i]? = some payload)
    (hleft : IsHalf settings payload pair.archive (.left pair.payload))
    (hsidecar : fed[j]? = some sidecar)
    (hright : IsHalf settings sidecar pair.archive (.right (pair.sidecar, pair.metadata))) :
    pair.MadeOf fed i j := by
  obtain ⟨hsame, hclass, hname, -⟩ := hleft
  obtain ⟨hpath, hside, hgood⟩ := hright
  refine ⟨hsame ▸ hpayload, hsame ▸ hclass, hsame ▸ hname, sidecar, hsidecar, hpath.symm, hside, ?_⟩
  exact (judgeSidecar_eq_good_iff.mp hgood).1

/-- The records at these positions are those that the reply resolves; if it restores a pair, they are
the archive and the metadata. -/
structure Reply.Settles (reply : Reply ρ) (fed : List (Record ρ)) (settled : List Nat) : Prop where
  pathnames : settled.map (fun i => fed[i]?.map (·.pathname)) = reply.pathnames.map some
  pair : ∀ pair, reply.pair? = some pair →
    ∃ payload sidecar, settled = [payload, sidecar] ∧ pair.MadeOf fed payload sidecar

/-- **What one record settles**, by positions: the record itself and what waits are settled, wait on, or
are lost. -/
theorem Reacts.positions (h : Reacts settings c record reply join) (hasc : c.join.Ascending)
    (hplace : Located settings fed c.join place) :
    ∃ settled lost place', reply.Settles (fed ++ [record]) settled ∧
      Located settings (fed ++ [record]) join place' ∧
      (settled ++ lost ++ places join place').Perm (fed.length :: places c.join place) := by
  have hlast : (fed ++ [record])[fed.length]? = some record := List.getElem?_concat_length
  have hkept := hplace.snoc record
  cases h with
  | settles notes outcome =>
    refine ⟨[fed.length], [], place, ⟨?_, nofun⟩, hkept, List.Perm.refl _⟩
    rw [List.map_singleton, hlast]
    rfl
  | turnsAway archive notes outcome =>
    unfold dismiss PairJoin.take
    rcases hget : c.join.get? archive with _ | (payload | held)
    · refine ⟨[fed.length], [], place, ⟨?_, nofun⟩, hkept.erase archive, ?_⟩
      · rw [List.map_singleton, hlast]
        rfl
      · unfold places
        rw [PairJoin.erase_eq_self hget]
        exact List.Perm.refl _
    · obtain ⟨other, hother, hsame, -⟩ := hkept archive _ hget
      refine ⟨[fed.length, place archive], [], place, ⟨?_, nofun⟩, hkept.erase archive, ?_⟩
      · rw [List.map_cons, List.map_singleton, hlast, hother, ← hsame]
        rfl
      · exact ((places_perm_erase hasc hget place).cons _).symm
    · -- the metadata that waited is dropped without a word
      refine ⟨[fed.length], [place archive], place, ⟨?_, nofun⟩, hkept.erase archive, ?_⟩
      · rw [List.map_singleton, hlast]
        rfl
      · exact ((places_perm_erase hasc hget place).cons _).symm
  | waits archive half hhalf hget =>
    exact ⟨[], [], _, ⟨rfl, nofun⟩, hplace.insert hhalf, places_insert_perm hget place fed.length⟩
  | joinsPayload pair hhalf hget =>
    obtain ⟨payload, hpayload, hleft⟩ := hkept pair.archive _ hget
    refine ⟨[place pair.archive, fed.length], [], place, ⟨?_, ?_⟩, hkept.erase pair.archive, ?_⟩
    · rw [List.map_cons, List.map_singleton, hlast, hpayload, ← hleft.1]
      exact congrArg ([some pair.payload.pathname, some ·]) hhalf.1.symm
    · rintro _ ⟨⟩
      exact ⟨_, _, rfl, Pair.madeOf hpayload hleft hlast hhalf⟩
    · exact (List.Perm.swap _ _ _).trans ((places_perm_erase hasc hget place).cons _).symm
  | joinsSidecar pair hhalf hget =>
    obtain ⟨sidecar, hsidecar, hright⟩ := hkept pair.archive _ hget
    refine ⟨[fed.length, place pair.archive], [], place, ⟨?_, ?_⟩, hkept.erase pair.archive, ?_⟩
    · rw [List.map_cons, List.map_singleton, hlast, hsidecar, ← hhalf.1]
      exact congrArg ([some pair.payload.pathname, some ·]) hright.1.symm
    · rintro _ ⟨⟩
      exact ⟨_, _, rfl, Pair.madeOf hlast hhalf hsidecar hright⟩
    · exact ((places_perm_erase hasc hget place).cons _).symm

/-! ## The ledger -/

/-- What happens when one record is fed. -/
structure Entry (ρ : Type) where
  record : Record ρ
  reply : Reply ρ
  resolved : List Resolution
  /-- The positions of the records that are resolved, in the order in which they were fed. -/
  settled : List Nat
  /-- What is asked of the host and of the guests. -/
  made : List Call

/-- The entry names the records that it resolves, and what it asks for is asked for by its pair, which is
made of records that were fed. -/
structure Entry.Justified (settings : RestoreSettings) (fed : List (Record ρ)) (entry : Entry ρ) :
    Prop where
  resolves : entry.settled.map (fun i => fed[i]?.map (·.pathname)) =
    entry.resolved.map fun resolution => some resolution.pathname
  pair : ∀ pair, entry.reply = .restore pair →
    ∃ payload sidecar, entry.settled = [payload, sidecar] ∧ pair.MadeOf fed payload sidecar
  asks : entry.reply.Asks settings entry.made

variable (host : Host σ κ) (guest : Guest σ)

/-- A reply is carried out, and what it settles is known. -/
theorem exists_entry (hasc : c.join.Ascending) (hplace : Located settings fed c.join place)
    (record : Record ρ) (s : σ) (made : List Call) :
    ∃ (entry : Entry ρ) (lost : List Nat) (place' : String → Nat) (s' : σ),
      entry.record = record ∧ entry.reply = (c.react settings record).1 ∧
      entry.reply.enact host.logged guest.logged settings (s, made) =
        (entry.resolved, (s', made ++ entry.made)) ∧
      entry.Justified settings (fed ++ [record]) ∧
      Located settings (fed ++ [record]) (c.react settings record).2.join place' ∧
      (entry.settled ++ lost ++ places (c.react settings record).2.join place').Perm
        (fed.length :: places c.join place) := by
  have hreacts := react_reacts settings c record
  obtain ⟨settled, lost, place', hsettles, hlocated, hperm⟩ := hreacts.positions hasc hplace
  have hvalid : ∀ pair, (c.react settings record).1.pair? = some pair →
      ∃ named, pair.metadata.validate pair.archive = .ok named := by
    intro pair hpair
    have hbacked : Backed settings (fed ++ [record]) c.join :=
      hplace.backed.mono (List.subset_append_left _ _)
    obtain ⟨-, other, -, -, -, hgood⟩ :=
      hreacts.sound (List.mem_append_right _ List.mem_cons_self) hbacked hpair
    exact (judgeSidecar_eq_good_iff.mp hgood).2.2
  obtain ⟨own, hmade, hasks⟩ := enact_adds host guest settings _ hvalid s made
  have hpaths := pathnames_enact host.logged guest.logged settings (c.react settings record).1
    (s, made)
  rcases hrun : (c.react settings record).1.enact host.logged guest.logged settings (s, made) with
    ⟨resolved, s', made'⟩
  rw [hrun] at hmade hpaths
  obtain rfl : made' = made ++ own := hmade
  refine ⟨⟨record, _, resolved, settled, own⟩, lost, place', s', rfl, rfl, hrun, ⟨?_, ?_, hasks⟩,
    hlocated, hperm⟩
  · rw [hsettles.pathnames, ← hpaths, List.map_map]
    rfl
  · intro pair hpair
    exact hsettles.pair pair (congrArg Reply.pair? hpair)

theorem exists_ledger (hasc : c.join.Ascending) (hplace : Located settings fed c.join place)
    (rest : List (Record ρ)) (s : σ) (made : List Call) :
    ∃ (ledger : List (Entry ρ)) (lost : List Nat) (place' : String → Nat) (s' : σ),
      ledger.map (fun entry => (entry.record, entry.reply)) = c.transcript settings rest ∧
      enactAll host.logged guest.logged settings ((c.transcript settings rest).map (·.2)) (s, made) =
        (ledger.flatMap (·.resolved), (s', made ++ ledger.flatMap (·.made))) ∧
      (∀ (k : Nat) (entry : Entry ρ), ledger[k]? = some entry →
        entry.Justified settings (fed ++ rest.take (k + 1))) ∧
      (ledger.flatMap (·.settled) ++ lost ++ places (c.after settings rest).join place').Perm
        (List.range' fed.length rest.length ++ places c.join place) := by
  induction rest generalizing c fed place s made with
  | nil =>
    refine ⟨[], [], place, s, rfl, ?_, nofun, List.Perm.refl _⟩
    exact Prod.ext rfl (Prod.ext rfl (List.append_nil made).symm)
  | cons record rest ih =>
    obtain ⟨entry, lost, next, s₁, hrecord, hreply, henact, hjustified, hlocated, hperm⟩ :=
      exists_entry host guest hasc hplace record s made
    obtain ⟨ledger, more, last, s', hturns, hrun, hall, hperms⟩ :=
      ih ((react_reacts settings c record).ascending hasc) hlocated s₁ (made ++ entry.made)
    refine ⟨entry :: ledger, lost ++ more, last, s', ?_, ?_, ?_, ?_⟩
    · rw [List.map_cons, hturns, hrecord, hreply, transcript]
    · rw [transcript, List.map_cons, enactAll, ← hreply]
      show (bind (entry.reply.enact host.logged guest.logged settings) fun resolved =>
        bind (enactAll host.logged guest.logged settings _) fun more =>
          pure (resolved ++ more) : StateM (σ × List Call) _) (s, made) = _
      simp only [bind, StateT.bind, henact, hrun]
      rw [List.flatMap_cons, List.flatMap_cons, ← List.append_assoc]
      rfl
    · intro k found hfound
      cases k with
      | zero =>
        obtain rfl : entry = found := Option.some.inj hfound
        exact hjustified
      | succ k =>
        have hmore := hall k found hfound
        rwa [List.append_assoc] at hmore
    · rw [after, List.flatMap_cons]
      rw [List.length_append, List.length_singleton] at hperms
      rw [List.length_cons, List.range'_succ]
      rw [List.perm_iff_count] at hperm hperms ⊢
      intro position
      have hfirst := hperm position
      have hrest := hperms position
      simp only [List.count_append, List.count_cons] at hfirst hrest ⊢
      omega

/-- **Whatever a restore does is justified by one pair.** There is a ledger with an entry for each record
that is fed, and what is asked of the host and of the guests is what its entries ask for. An entry asks
for something only if it restores a pair: an archive and metadata of the same name that were fed by then,
the metadata names the guest that is stopped and restored, and what is written comes from the archive.
No record is resolved by two entries, or twice by one. After a record that shows that an archive is not
to be restored, there is no pair of that archive. -/
theorem effects_justified (settings : RestoreSettings) (records : List (Record ρ)) (s : σ) :
    ∃ ledger : List (Entry ρ),
      ledger.map (fun entry => (entry.record, entry.reply)) =
        ({} : Correlator ρ).transcript settings records ∧
      (restoreAll host guest settings records s).1 = ledger.flatMap (·.resolved) ++
        (({} : Correlator ρ).after settings records).finish ∧
      calls host guest settings records s = ledger.flatMap (·.made) ∧
      (∀ (k : Nat) (entry : Entry ρ), ledger[k]? = some entry →
        entry.Justified settings (records.take (k + 1))) ∧
      (ledger.flatMap (·.settled)).Nodup ∧
      ledger.Pairwise fun earlier later => ∀ archive, Condemns settings earlier.record archive →
        ∀ pair, later.reply = .restore pair → pair.archive ≠ archive := by
  have hplace : Located settings ([] : List (Record ρ)) ({} : Correlator ρ).join fun _ => 0 := by
    intro archive half hget
    cases hget
  obtain ⟨ledger, lost, place', s', hturns, hrun, hall, hperm⟩ :=
    exists_ledger host guest PairJoin.ascending_empty hplace records s []
  have hlogged : restoreAll host.logged guest.logged settings records (s, []) =
      (ledger.flatMap (·.resolved) ++ (({} : Correlator ρ).after settings records).finish,
        (s', ledger.flatMap (·.made))) := by
    rw [restoreAll_eq]
    show (bind (enactAll host.logged guest.logged settings _) fun resolved =>
      pure (resolved ++ _) : StateM (σ × List Call) _) (s, []) = _
    simp only [bind, StateT.bind, hrun]
    rfl
  rw [restoreAll_logged] at hlogged
  obtain ⟨hresolved, hstate⟩ := Prod.mk.inj hlogged
  have hsealed : ({} : Correlator ρ).Sealed := by
    rintro archive (h | h)
    · cases h
    · cases h
  have hbacked : Backed settings [] ({} : Correlator ρ).join := backed_empty []
  have hpairwise := pair_ne_of_condemns hsealed hbacked records
  rw [← hturns, List.pairwise_map] at hpairwise
  refine ⟨ledger, hturns, hresolved, (Prod.mk.inj hstate).2, ?_, ?_, ?_⟩
  · intro k entry hentry
    exact hall k entry hentry
  · have hnone : places ({} : Correlator ρ).join (fun _ => 0) = [] := rfl
    rw [hnone, List.append_nil, List.append_assoc] at hperm
    exact (List.nodup_append.mp (hperm.nodup_iff.mpr List.nodup_range')).1
  · refine hpairwise.imp fun {earlier later} h archive hcondemns pair hpair => ?_
    exact h archive hcondemns pair (congrArg Reply.pair? hpair)

end GuestVault.Correlator
