import BlockVolume.MountTable
import BlockVolume.Proofs.PathOrder
import Mathlib.Data.Finset.Card

namespace BlockVolume

namespace MountTable

theorem pairwise_mergeSort_le (ps : List Path) :
    (ps.mergeSort Path.le).Pairwise fun p q => p.key ≤ q.key :=
  (List.pairwise_mergeSort Path.le_of_le_of_le Path.le_or_le ps).imp Path.le_iff.1

theorem pairwise_firstsAfter {before : Path} {ps : List Path}
    (h : (before :: ps).Pairwise fun p q => p.key ≤ q.key) :
    (before :: firstsAfter before ps).Pairwise fun p q => p.key < q.key := by
  induction ps generalizing before with
  | nil => simp [firstsAfter]
  | cons p ps ih =>
      obtain ⟨hbefore, hrest⟩ := List.pairwise_cons.1 h
      rw [firstsAfter]
      split
      · exact ih (h.sublist (.cons_cons before (.cons p (List.Sublist.refl ps))))
      · next hsame =>
          have hlt : before.key < p.key :=
            Path.key_lt_of_le (hbefore p List.mem_cons_self) (by simpa using hsame)
          have hlater := ih hrest
          refine List.pairwise_cons.2 ⟨fun q hq => ?_, hlater⟩
          rcases List.mem_cons.1 hq with rfl | hq
          · exact hlt
          · exact lt_trans hlt ((List.pairwise_cons.1 hlater).1 q hq)

theorem mem_components_firstsAfter {before : Path} {ps : List Path} {steps : List Component} :
    steps ∈ (before :: firstsAfter before ps).map Path.components ↔
      steps ∈ (before :: ps).map Path.components := by
  induction ps generalizing before with
  | nil => simp [firstsAfter]
  | cons p ps ih =>
      have hp := @ih p
      have hb := @ih before
      simp only [List.map_cons, List.mem_cons] at hp hb ⊢
      rw [firstsAfter]
      split
      · next hsame =>
          have hsteps : before.components = p.components := eq_of_beq hsame
          rw [hb, ← hsteps, or_self_left]
      · rw [List.map_cons, List.mem_cons, hp]

theorem pairwise_mountPointsOf (source : String) (entries : List MountEntry) :
    (mountPointsOf source entries).Pairwise fun p q => p.key < q.key := by
  have hsorted :=
    pairwise_mergeSort_le ((entries.filter (·.source = source)).map (·.mountPoint))
  rw [mountPointsOf]
  cases hps : ((entries.filter (·.source = source)).map (·.mountPoint)).mergeSort Path.le with
  | nil => exact .nil
  | cons p ps =>
      rw [hps] at hsorted
      exact pairwise_firstsAfter hsorted

def stepsOf (source : String) (entries : List MountEntry) : Finset (List Component) :=
  ((entries.filter (·.source = source)).map (·.mountPoint.components)).toFinset

theorem stepsOf_perm {entries others : List MountEntry} (source : String)
    (h : others.Perm entries) : stepsOf source others = stepsOf source entries :=
  List.toFinset_eq_of_perm _ _ ((h.filter _).map _)

theorem components_mem_stepsOf {entries : List MountEntry} {e : MountEntry} (h : e ∈ entries) :
    e.mountPoint.components ∈ stepsOf e.source entries := by
  rw [stepsOf, List.mem_toFinset]
  exact List.mem_map_of_mem (List.mem_filter.2 ⟨h, by simp⟩)

theorem card_stepsOf_pos {entries : List MountEntry} {e : MountEntry} (h : e ∈ entries) :
    0 < (stepsOf e.source entries).card :=
  Finset.card_pos.2 ⟨_, components_mem_stepsOf h⟩

theorem mem_components_mountPointsOf {source : String} {entries : List MountEntry}
    {steps : List Component} :
    steps ∈ (mountPointsOf source entries).map Path.components ↔
      steps ∈ stepsOf source entries := by
  have hsort (ps : List Path) : steps ∈ ps.map Path.components ↔
      steps ∈ (firsts (ps.mergeSort Path.le)).map Path.components := by
    rw [← ((List.mergeSort_perm ps Path.le).map Path.components).mem_iff]
    cases ps.mergeSort Path.le with
    | nil => rfl
    | cons p ps => exact mem_components_firstsAfter.symm
  rw [mountPointsOf, ← hsort, stepsOf, List.mem_toFinset, List.map_map]
  rfl

theorem length_mountPointsOf (source : String) (entries : List MountEntry) :
    (mountPointsOf source entries).length = (stepsOf source entries).card := by
  have hnodup : ((mountPointsOf source entries).map Path.components).Nodup := by
    rw [List.Nodup, List.pairwise_map]
    refine (pairwise_mountPointsOf source entries).imp fun {p q} hlt heq => ?_
    rw [Path.key_eq_iff.2 heq] at hlt
    exact lt_irrefl _ hlt
  have hset : ((mountPointsOf source entries).map Path.components).toFinset =
      stepsOf source entries := by
    ext steps
    rw [List.mem_toFinset, mem_components_mountPointsOf]
  rw [← hset, List.toFinset_card_of_nodup hnodup, List.length_map]

theorem length_mountPointsOf_concat (entries : List MountEntry) (e : MountEntry) :
    (mountPointsOf e.source (entries ++ [e])).length =
      1 + ((stepsOf e.source entries).erase e.mountPoint.components).card := by
  have hinsert : stepsOf e.source (entries ++ [e]) =
      insert e.mountPoint.components (stepsOf e.source entries) := by
    ext steps
    simp [stepsOf]
  rw [length_mountPointsOf, hinsert, ← Finset.erase_insert_eq_erase, Nat.add_comm,
    Finset.card_erase_add_one (Finset.mem_insert_self _ _)]

theorem filter_same_mergeSort (p : Path) (ps : List Path) :
    (ps.mergeSort Path.le).filter (·.same p) = ps.filter (·.same p) := by
  have hequal : (ps.filter (·.same p)).Pairwise fun q r => Path.le q r = true := by
    refine List.pairwise_filter.2 (List.pairwise_of_forall fun q r hq hr => ?_)
    have hkeys : q.key = r.key := Path.key_eq_iff.2 ((eq_of_beq hq).trans (eq_of_beq hr).symm)
    exact Path.le_iff.2 hkeys.le
  have hkept := (List.sublist_mergeSort Path.le_of_le_of_le Path.le_or_le hequal
    List.filter_sublist).filter (·.same p)
  rw [List.filter_filter] at hkept
  simp only [Bool.and_self] at hkept
  have hlength := ((List.mergeSort_perm ps Path.le).filter (·.same p)).length_eq
  exact (hkept.eq_of_length hlength.symm).symm

theorem find?_of_mem_firstsAfter {before p : Path} {ps : List Path}
    (h : (before :: ps).Pairwise fun q r => q.key ≤ r.key)
    (hp : p ∈ before :: firstsAfter before ps) : (before :: ps).find? (·.same p) = some p := by
  induction ps generalizing before with
  | nil =>
      obtain rfl := List.mem_singleton.1 hp
      exact List.find?_cons_of_pos (by simp [Path.same])
  | cons q ps ih =>
      rcases List.mem_cons.1 hp with rfl | hlater
      · exact List.find?_cons_of_pos (by simp [Path.same])
      · have hlt : before.key < p.key :=
          (List.pairwise_cons.1 (pairwise_firstsAfter h)).1 p hlater
        have hbefore : before.components ≠ p.components := mt Path.key_eq_iff.2 hlt.ne
        -- `p` is behind `before`, so no spelling of `before` is one of `p`
        have hskip (q : Path) (hq : q.components = before.components) (qs : List Path) :
            (q :: qs).find? (·.same p) = qs.find? (·.same p) :=
          List.find?_cons_of_neg (by simpa [Path.same, hq] using hbefore)
        rw [hskip before rfl]
        rw [firstsAfter] at hlater
        split at hlater
        · next hsame =>
            have hrest := h.sublist (.cons_cons before (.cons q (List.Sublist.refl ps)))
            rw [hskip q (eq_of_beq hsame).symm, ← hskip before rfl]
            exact ih hrest (.tail _ hlater)
        · exact ih (List.pairwise_cons.1 h).2 hlater

theorem find?_of_mem_firsts {p : Path} {ps : List Path}
    (h : ps.Pairwise fun q r => q.key ≤ r.key) (hp : p ∈ firsts ps) :
    ps.find? (·.same p) = some p := by
  cases ps with
  | nil => cases hp
  | cons q ps => exact find?_of_mem_firstsAfter h hp

variable {source : String} {entries : List MountEntry} {p : Path}

def FirstSpelled (source : String) (entries : List MountEntry) (p : Path) : Prop :=
  ∃ before e after, entries = before ++ e :: after ∧ e.source = source ∧ e.mountPoint = p ∧
    ∀ earlier ∈ before, earlier.source = source → earlier.mountPoint.components ≠ p.components

theorem firstSpelled_iff : FirstSpelled source entries p ↔
    ((entries.filter (·.source = source)).map (·.mountPoint)).find? (·.same p) = some p := by
  rw [List.find?_map, List.find?_filter, Option.map_eq_some_iff]
  simp only [List.find?_eq_some_iff_append, Function.comp, Path.same, decide_eq_true_eq, beq_iff_eq,
    Bool.not_eq_true', decide_eq_false_iff_not, not_and]
  constructor
  · rintro ⟨before, e, after, hentries, hsource, rfl, hearlier⟩
    exact ⟨e, ⟨⟨hsource, rfl⟩, before, after, hentries, hearlier⟩, rfl⟩
  · rintro ⟨e, ⟨⟨hsource, -⟩, before, after, hentries, hearlier⟩, rfl⟩
    exact ⟨before, e, after, hentries, hsource, rfl, hearlier⟩

theorem firstSpelled_of_mem (h : p ∈ mountPointsOf source entries) :
    FirstSpelled source entries p := by
  rw [mountPointsOf] at h
  rw [firstSpelled_iff, ← List.head?_filter, ← filter_same_mergeSort, List.head?_filter]
  exact find?_of_mem_firsts (pairwise_mergeSort_le _) h

theorem exists_mem_mountPointsOf {e : MountEntry} (h : e ∈ entries) :
    ∃ p ∈ mountPointsOf e.source entries, p.components = e.mountPoint.components :=
  List.mem_map.1 (mem_components_mountPointsOf.2 (components_mem_stepsOf h))

theorem mem_mountPointsOf : p ∈ mountPointsOf source entries ↔ FirstSpelled source entries p := by
  refine ⟨firstSpelled_of_mem, fun h => ?_⟩
  have ⟨_, e, _, hentries, hsource, hplace, _⟩ := h
  have he : e ∈ entries := hentries ▸ List.mem_append_cons_self
  obtain ⟨q, hq, hsteps⟩ := exists_mem_mountPointsOf he
  rw [hsource] at hq
  rw [hplace] at hsteps
  -- there is but one first spelling of the same steps
  have hfirst := firstSpelled_iff.1 (firstSpelled_of_mem hq)
  have hsame : (fun r : Path => r.same q) = fun r => r.same p := by
    funext r
    rw [Path.same, Path.same, hsteps]
  rw [hsame, firstSpelled_iff.1 h] at hfirst
  rwa [Option.some.inj hfirst]

/-- The places of a source are in ascending order and all different. They are the mount points of
its entries, each in the spelling that comes first in the table, and no place is left out. -/
theorem mountPointsOf_ascending (source : String) (entries : List MountEntry) :
    let places := mountPointsOf source entries
    places.Pairwise Path.Precedes ∧
      places.Pairwise (fun p q => p.components ≠ q.components) ∧
      (∀ p, p ∈ places ↔ FirstSpelled source entries p) ∧
      ∀ e ∈ entries, e.source = source →
        ∃ p ∈ places, p.components = e.mountPoint.components := by
  intro places
  have hascending : places.Pairwise Path.Precedes :=
    (pairwise_mountPointsOf source entries).imp Path.precedes_iff.2
  refine ⟨hascending, hascending.imp Path.Precedes.ne, fun p => mem_mountPointsOf, ?_⟩
  rintro e he rfl
  exact exists_mem_mountPointsOf he

theorem mountPointsOf_ascending_respelled :
    let entries : List MountEntry :=
      [⟨⟨"/mnt//b/"⟩, "ext4", "/dev/sdb"⟩, ⟨⟨"/mnt/b"⟩, "xfs", "/dev/sdc"⟩,
        ⟨⟨"/mnt/./b"⟩, "ext4", "/dev/sdb"⟩, ⟨⟨"/mnt/a"⟩, "ext4", "/dev/sdb"⟩,
        ⟨⟨"/mnt/b"⟩, "ext4", "/dev/sdb"⟩]
    let places := mountPointsOf "/dev/sdb" entries
    places.length = 2 ∧ ⟨"/mnt/a"⟩ ∈ places ∧ ⟨"/mnt//b/"⟩ ∈ places ∧
      places.Pairwise Path.Precedes ∧
      ∃ p ∈ places, p.components = Path.components ⟨"/mnt/./b"⟩ := by
  intro entries places
  obtain ⟨hascending, -, hmem, hall⟩ := mountPointsOf_ascending "/dev/sdb" entries
  refine ⟨?_, (hmem _).2 ?_, (hmem _).2 ?_, hascending, ?_⟩
  · rw [length_mountPointsOf]
    decide +kernel
  · exact ⟨entries.take 3, _, _, rfl, rfl, rfl, by decide⟩
  · exact ⟨[], _, _, rfl, rfl, rfl, nofun⟩
  · exact hall ⟨⟨"/mnt/./b"⟩, "ext4", "/dev/sdb"⟩ (by simp [entries]) rfl

end MountTable

end BlockVolume
