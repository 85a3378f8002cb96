import PartnerPortal.Ledger.Schema

/-!
# Rows under a migration

What the statements of a migration do to the rows they touch.

Results:
- `lookup_insertAll`, `lookup_upsert_self`, `lookup_upsert` — the values of `ledger_meta`;
- `mem_newestActive_iff` — the ids that a collapse spares are those of the newest active keys;
- `openAccounts_opens`, `openAccounts_nodup` — an account for every consumer that is owed one, and one each.
-/

namespace PartnerPortal

/-! ## Lookups -/

section Meta

variable {stored : List (String × String)} {entry : String × String} {key other value : String}

theorem lookup_insertOrIgnore : (insertOrIgnore stored entry).lookup key =
    (stored.lookup key).or ([entry].lookup key) := by
  unfold insertOrIgnore
  split
  · rename_i hstored
    by_cases hkey : key = entry.1
    · subst hkey
      rw [Option.or_of_isSome hstored]
    · have hnone : [entry].lookup key = none := by
        rw [List.lookup_cons, beq_false_of_ne hkey]
        rfl
      rw [hnone, Option.or_none]
  · rw [List.lookup_append]

theorem lookup_insertAll {entries : List (String × String)} :
    (entries.foldl insertOrIgnore stored).lookup key = (stored.lookup key).or (entries.lookup key) := by
  induction entries generalizing stored with
  | nil => exact (Option.or_none).symm
  | cons entry entries ih =>
    rw [List.foldl_cons, ih, lookup_insertOrIgnore, Option.or_assoc, ← List.lookup_append]
    rfl

theorem mem_insertAll {entries : List (String × String)} (h : entry ∈ entries.foldl insertOrIgnore stored) :
    entry ∈ stored ∨ entry ∈ entries := by
  induction entries generalizing stored with
  | nil => exact .inl h
  | cons first entries ih =>
    rcases ih h with hstored | hrest
    · unfold insertOrIgnore at hstored
      split at hstored
      · exact .inl hstored
      · rcases List.mem_append.1 hstored with hold | hnew
        · exact .inl hold
        · rw [List.mem_singleton.1 hnew]
          exact .inr List.mem_cons_self
    · exact .inr (List.mem_cons_of_mem _ hrest)

theorem append_nodup (h : (stored.map Prod.fst).Nodup) (hnone : ¬(stored.lookup entry.1).isSome = true) :
    ((stored ++ [entry]).map Prod.fst).Nodup := by
  refine Tables.nodup_insert h fun old hold hsame => hnone ?_
  exact List.lookup_isSome_iff.2 ⟨old, hold, beq_iff_eq.2 hsame.symm⟩

theorem insertOrIgnore_nodup (h : (stored.map Prod.fst).Nodup) :
    ((insertOrIgnore stored entry).map Prod.fst).Nodup := by
  unfold insertOrIgnore
  split
  · exact h
  · rename_i hnone
    exact append_nodup h hnone

theorem insertAll_nodup {entries : List (String × String)} (h : (stored.map Prod.fst).Nodup) :
    ((entries.foldl insertOrIgnore stored).map Prod.fst).Nodup := by
  induction entries generalizing stored with
  | nil => exact h
  | cons entry entries ih => exact ih (insertOrIgnore_nodup h)

theorem lookup_upsert_self : (upsert key value stored).lookup key = some value := by
  unfold upsert
  split
  · rename_i hstored
    induction stored with
    | nil => cases hstored
    | cons entry stored ih =>
      rw [List.map_cons]
      split
      · exact List.lookup_cons_self
      · rename_i hne
        rw [List.lookup_cons, beq_false_of_ne (Ne.symm hne)] at hstored ⊢
        exact ih hstored
  · rename_i hnone
    rw [List.lookup_append, Option.not_isSome_iff_eq_none.1 hnone, Option.none_or]
    exact List.lookup_cons_self

theorem lookup_upsert (h : other ≠ key) : (upsert key value stored).lookup other = stored.lookup other := by
  unfold upsert
  split
  · clear * - h
    induction stored with
    | nil => rfl
    | cons entry stored ih =>
      rw [List.map_cons, List.lookup_cons, List.lookup_cons, ih]
      by_cases hentry : entry.1 = key
      · rw [if_pos hentry, beq_false_of_ne h, hentry, beq_false_of_ne h]
      · rw [if_neg hentry]
  · rw [List.lookup_append, show [(key, value)].lookup other = none by
      rw [List.lookup_cons, beq_false_of_ne h]
      rfl, Option.or_none]

theorem mem_upsert (h : entry ∈ upsert key value stored) (hkey : entry.1 = key) : entry.2 = value := by
  unfold upsert at h
  split at h
  · obtain ⟨old, -, rfl⟩ := List.mem_map.1 h
    split at hkey
    · rename_i hold
      rw [if_pos hold]
    · rename_i hold
      exact absurd hkey hold
  · rename_i hnone
    rcases List.mem_append.1 h with hold | hnew
    · have hsome : (stored.lookup key).isSome = true :=
        List.lookup_isSome_iff.2 ⟨entry, hold, beq_iff_eq.2 hkey.symm⟩
      exact absurd hsome hnone
    · rw [List.mem_singleton.1 hnew]

theorem upsert_nodup (h : (stored.map Prod.fst).Nodup) : ((upsert key value stored).map Prod.fst).Nodup := by
  unfold upsert
  split
  · have hsame : (stored.map fun entry => if entry.1 = key then (key, value) else entry).map Prod.fst =
        stored.map Prod.fst := by
      rw [List.map_map]
      refine List.map_congr_left fun entry _ => ?_
      show (if entry.1 = key then (key, value) else entry).1 = entry.1
      split
      · rename_i hkey
        exact hkey.symm
      · rfl
    rw [hsame]
    exact h
  · rename_i hnone
    exact append_nodup h hnone

/-- A value that is there already is written again. -/
theorem upsert_same (hstored : (stored.lookup key).isSome = true)
    (hsame : ∀ entry ∈ stored, entry.1 = key → entry.2 = value) : upsert key value stored = stored := by
  unfold upsert
  rw [if_pos hstored]
  refine (List.map_congr_left fun entry hentry => ?_).trans (List.map_id stored)
  split
  · rename_i hkey
    exact Prod.ext hkey.symm (hsame entry hentry hkey).symm
  · rfl

end Meta

/-! ## Keys -/

/-- What a key is known by. -/
def KeyRecord.identity (k : KeyRecord) :
    Int × String × String × String × String × String × Option String :=
  (k.row.id, k.row.name, k.row.consumerId, k.row.keyPrefix, k.keyHash, k.row.createdAt, k.row.expiresAt)

section Keys

variable {keys : List KeyRecord} {k : KeyRecord} {newest : List Int} {now : String}

/-- The active key of greatest id of its consumer. -/
def Newest (keys : List KeyRecord) (k : KeyRecord) : Prop :=
  k ∈ keys ∧ k.isActive = true ∧
    ∀ other ∈ keys, other.isActive = true → other.row.consumerId = k.row.consumerId →
      other.row.id ≤ k.row.id

/-- The ids that a collapse spares are those of the newest keys. -/
theorem mem_newestActive_iff (hids : (keys.map (·.row.id)).Nodup) (hk : k ∈ keys)
    (hactive : k.isActive = true) : k.row.id ∈ newestActive keys ↔ Newest keys k := by
  unfold newestActive
  simp only [List.mem_filterMap, List.mem_dedup, List.max?_eq_some_iff]
  constructor
  · rintro ⟨consumerId, -, hmem, hgreatest⟩
    obtain ⟨found, hfound, hid⟩ := List.mem_map.1 hmem
    obtain ⟨hfound, hconsumer⟩ := List.mem_filter.1 hfound
    have hsame : found = k := List.inj_on_of_nodup_map hids (List.mem_of_mem_filter hfound) hk hid
    subst hsame
    refine ⟨hk, hactive, fun other hother hotherActive hotherConsumer => ?_⟩
    refine hgreatest _ (List.mem_map_of_mem (List.mem_filter.2
      ⟨List.mem_filter.2 ⟨hother, hotherActive⟩, ?_⟩))
    rw [hotherConsumer]
    exact hconsumer
  · rintro ⟨-, -, hgreatest⟩
    have hmem := List.mem_filter.2 ⟨hk, hactive⟩
    refine ⟨k.row.consumerId, List.mem_map_of_mem hmem,
      List.mem_map_of_mem (List.mem_filter.2 ⟨hmem, decide_eq_true rfl⟩), fun id hid => ?_⟩
    obtain ⟨other, hother, rfl⟩ := List.mem_map.1 hid
    obtain ⟨hother, hconsumer⟩ := List.mem_filter.1 hother
    obtain ⟨hother, hotherActive⟩ := List.mem_filter.1 hother
    exact hgreatest other hother hotherActive (of_decide_eq_true hconsumer)

/-- A consumer with an active key has a newest one. -/
theorem exists_newest (hk : k ∈ keys) (hactive : k.isActive = true) :
    ∃ best, Newest keys best ∧ best.row.consumerId = k.row.consumerId := by
  let own := (keys.filter fun other =>
    other.isActive && other.row.consumerId = k.row.consumerId).map (·.row.id)
  have hmem : k.row.id ∈ own :=
    List.mem_map_of_mem (List.mem_filter.2 ⟨hk, by rw [hactive, decide_eq_true rfl, Bool.true_and]⟩)
  obtain ⟨greatest, hgreatest⟩ := Option.isSome_iff_exists.1 (List.isSome_max?_of_mem hmem)
  obtain ⟨hfound, hle⟩ := List.max?_eq_some_iff.1 hgreatest
  obtain ⟨best, hbest, rfl⟩ := List.mem_map.1 hfound
  obtain ⟨hbest, hboth⟩ := List.mem_filter.1 hbest
  obtain ⟨hbestActive, hconsumer⟩ := Bool.and_eq_true_iff.1 hboth
  have hconsumer : best.row.consumerId = k.row.consumerId := of_decide_eq_true hconsumer
  refine ⟨best, ⟨hbest, hbestActive, fun other hother hotherActive hsame => ?_⟩, hconsumer⟩
  refine hle _ (List.mem_map_of_mem (List.mem_filter.2 ⟨hother, ?_⟩))
  rw [hotherActive, decide_eq_true (hsame.trans hconsumer), Bool.true_and]

theorem collapse_identity : (k.collapse newest now).identity = k.identity := by
  unfold KeyRecord.collapse
  split
  · rfl
  · rfl

/-- A key that is active after a collapse is as it was. -/
theorem collapse_active (h : (k.collapse newest now).isActive = true) :
    k.collapse newest now = k ∧ k.isActive = true ∧ k.row.id ∈ newest := by
  unfold KeyRecord.collapse at h ⊢
  split at h
  · cases h
  · rename_i hkept
    rw [if_neg hkept]
    refine ⟨rfl, h, ?_⟩
    rw [h, Bool.true_and, Bool.not_eq_true, Bool.not_eq_false'] at hkept
    exact List.contains_iff_mem.1 hkept

theorem collapse_spared (h : k.row.id ∈ newest) : k.collapse newest now = k := by
  unfold KeyRecord.collapse
  rw [List.contains_iff_mem.2 h, Bool.not_true, Bool.and_false, if_neg Bool.false_ne_true]

theorem collapse_inactive (h : k.isActive = false) : k.collapse newest now = k := by
  unfold KeyRecord.collapse
  rw [h, Bool.false_and, if_neg Bool.false_ne_true]

end Keys

/-! ## Accounts -/

section Accounts

variable {partners : List Partner} {now : String} {account : String × String}
  {accounts : List (String × String)} {keys : List KeyRecord} {k : KeyRecord}

theorem openAccount_keeps (now : String) (partners : List Partner) (account : String × String) :
    partners <+: openAccount now partners account := by
  unfold openAccount
  split
  · exact List.prefix_refl _
  · exact List.prefix_append _ _

theorem openAccount_opens (now : String) (partners : List Partner) (account : String × String) :
    ∃ p ∈ openAccount now partners account, p.consumerId = account.1 := by
  unfold openAccount
  split
  · rename_i hany
    obtain ⟨p, hp, hsame⟩ := List.any_eq_true.1 hany
    exact ⟨p, hp, of_decide_eq_true hsame⟩
  · exact ⟨_, List.mem_append_right _ (List.mem_singleton.2 rfl), rfl⟩

theorem openAccount_nodup (h : (partners.map Partner.consumerId).Nodup) :
    ((openAccount now partners account).map Partner.consumerId).Nodup := by
  unfold openAccount
  split
  · exact h
  · rename_i hnone
    refine Tables.nodup_insert h fun p hp hsame => hnone ?_
    exact List.any_eq_true.2 ⟨p, hp, decide_eq_true hsame⟩

theorem openAccounts_keeps (now : String) (partners : List Partner) (accounts : List (String × String)) :
    partners <+: accounts.foldl (openAccount now) partners := by
  induction accounts generalizing partners with
  | nil => exact List.prefix_refl _
  | cons account accounts ih => exact (openAccount_keeps now partners account).trans (ih _)

theorem openAccounts_opens (now : String) (partners : List Partner) (h : account ∈ accounts) :
    ∃ p ∈ accounts.foldl (openAccount now) partners, p.consumerId = account.1 := by
  induction accounts generalizing partners with
  | nil => cases h
  | cons first accounts ih =>
    rcases List.mem_cons.1 h with rfl | hrest
    · obtain ⟨p, hp, hsame⟩ := openAccount_opens now partners account
      exact ⟨p, (openAccounts_keeps now _ accounts).subset hp, hsame⟩
    · exact ih _ hrest

theorem openAccounts_nodup (h : (partners.map Partner.consumerId).Nodup) :
    ((accounts.foldl (openAccount now) partners).map Partner.consumerId).Nodup := by
  induction accounts generalizing partners with
  | nil => exact h
  | cons account accounts ih => exact ih (openAccount_nodup h)

/-- No account is opened twice. -/
theorem openAccounts_rests (h : ∀ account ∈ accounts, ∃ p ∈ partners, p.consumerId = account.1) :
    accounts.foldl (openAccount now) partners = partners := by
  induction accounts with
  | nil => rfl
  | cons account accounts ih =>
    obtain ⟨⟨p, hp, hsame⟩, hrest⟩ := List.forall_mem_cons.1 h
    have hany : partners.any (fun p => p.consumerId = account.1) = true :=
      List.any_eq_true.2 ⟨p, hp, decide_eq_true hsame⟩
    rw [List.foldl_cons, openAccount, if_pos hany]
    exact ih hrest

theorem leastNames_covers (hk : k ∈ keys) : ∃ account ∈ leastNames keys, account.1 = k.row.consumerId := by
  refine ⟨_, List.mem_map_of_mem ((List.mem_insertionSort _).2 (List.mem_dedup.2
    (List.mem_map_of_mem (f := (·.row.consumerId)) hk))), rfl⟩

/-- An account is owed to those only who have a key. -/
theorem leastNames_owed (h : account ∈ leastNames keys) : ∃ k ∈ keys, account.1 = k.row.consumerId := by
  obtain ⟨consumerId, hmem, rfl⟩ := List.mem_map.1 h
  obtain ⟨k, hk, rfl⟩ := List.mem_map.1 (List.mem_dedup.1 ((List.mem_insertionSort _).1 hmem))
  exact ⟨k, hk, rfl⟩

theorem owedAccounts_covers {rows : List ListedKey} (hk : k ∈ rows.map ListedKey.record) :
    ∃ account ∈ LedgerFile.owedAccounts rows, account.1 = k.row.consumerId := by
  obtain ⟨account, hmem, hsame⟩ := leastNames_covers hk
  exact ⟨account, List.mem_append_right _ hmem, hsame⟩

theorem owedAccounts_owed {rows : List ListedKey} (h : account ∈ LedgerFile.owedAccounts rows) :
    ∃ k ∈ rows.map ListedKey.record, account.1 = k.row.consumerId := by
  rcases List.mem_append.1 h with hserved | hall
  · obtain ⟨k, hk, hsame⟩ := leastNames_owed hserved
    obtain ⟨row, hrow, rfl⟩ := List.mem_map.1 hk
    exact ⟨_, List.mem_map_of_mem (List.mem_of_mem_filter hrow), hsame⟩
  · exact leastNames_owed hall

end Accounts

end PartnerPortal
