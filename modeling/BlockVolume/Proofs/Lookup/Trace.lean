import BlockVolume.Proofs.Lookup.Outcome

namespace BlockVolume

def HostAction.isStat : HostAction → Bool
  | .stat _ => true
  | _ => false

/-- What is remembered, block by block, of a lookup that nothing ends before its delays are used
up. -/
def lookupBlocks (probe rescan : List HostAction) : List Duration → List (List HostAction)
  | [] => [probe]
  | d :: ds => probe :: rescan :: [.sleep d] :: lookupBlocks probe rescan ds

/-- The exchanges are remembered as the first of some blocks, and nothing was at any path; or they
are remembered as the first blocks and as the part of a further probe that ends at the first path
where something is, or at which one cannot look. -/
def CutOff (ps : List Path) (blocks : List (List HostAction)) (xs : List (Plan.Exchange Host)) :
    Prop :=
  (∃ whole, whole <+: blocks ∧ xs.filterMap HostAction.ofExchange? = whole.flatten ∧
      Fruitless xs) ∨
    ∃ whole earlier higher p lower answer, whole ++ [ps.map .stat] <+: blocks ∧
      ps = higher ++ p :: lower ∧
      xs = earlier ++ higher.map missing ++ [looked p answer] ∧ answer ≠ .ok false ∧
      earlier.filterMap HostAction.ofExchange? = whole.flatten ∧ Fruitless earlier

theorem CutOff.after_round {ps : List Path} {rescan : List HostAction}
    {blocks : List (List HostAction)} {xs zs : List (Plan.Exchange Host)}
    (hz : CutOff ps blocks zs) (hx : Fruitless xs)
    (hactions : xs.filterMap HostAction.ofExchange? = ps.map .stat ++ rescan) (d : Duration)
    (token : CancelToken) :
    CutOff ps (ps.map .stat :: rescan :: [.sleep d] :: blocks)
      (xs ++ waited d token .elapsed :: zs) := by
  rcases hz with ⟨whole, hwhole, hz, hf⟩ |
    ⟨whole, earlier, higher, p, lower, answer, hwhole, hps, rfl, ha, he, hf⟩
  · refine .inl ⟨ps.map .stat :: rescan :: [.sleep d] :: whole, by simpa using hwhole, ?_,
      hx.round hf d token⟩
    simp [hactions, hz]
  · refine .inr ⟨ps.map .stat :: rescan :: [.sleep d] :: whole,
      xs ++ waited d token .elapsed :: earlier, higher, p, lower, answer,
      by simpa using hwhole, hps, by simp, ha, ?_, hx.round hf d token⟩
    simp [hactions, he]

theorem split_append {α : Type} {xs ys as bs : List α} {a : α} (h : xs ++ ys = as ++ a :: bs) :
    (∃ cs, xs = as ++ a :: cs) ∨ ∃ cs, as = xs ++ cs ∧ ys = cs ++ a :: bs := by
  rcases List.append_eq_append_iff.1 h with hright | ⟨cs, rfl, hcs⟩
  · exact .inr hright
  · rcases List.cons_eq_append_iff.1 hcs with ⟨rfl, rfl⟩ | ⟨ds, rfl, -⟩
    · exact .inr ⟨[], by simp, rfl⟩
    · exact .inl ⟨ds, rfl⟩

theorem flatten_prefix {α : Type} {xss yss : List (List α)} (h : xss <+: yss) :
    xss.flatten <+: yss.flatten := by
  obtain ⟨zss, rfl⟩ := h
  exact ⟨zss.flatten, List.flatten_append.symm⟩

theorem CutOff.flatten_prefix {ps : List Path} {blocks : List (List HostAction)}
    {xs : List (Plan.Exchange Host)} (h : CutOff ps blocks xs) :
    xs.filterMap HostAction.ofExchange? <+: blocks.flatten := by
  rcases h with ⟨whole, hwhole, hx, -⟩ |
    ⟨whole, earlier, higher, p, lower, answer, hwhole, rfl, rfl, -, he, -⟩
  · rw [hx]
    exact BlockVolume.flatten_prefix hwhole
  · refine List.IsPrefix.trans ?_ (BlockVolume.flatten_prefix hwhole)
    exact ⟨lower.map .stat, by simp [he]⟩

section lookupBlocks

variable {probe rescan : List HostAction} {ds : List Duration} {as bs : List HostAction}

theorem flatten_lookupBlocks_cons (d : Duration) :
    (lookupBlocks probe rescan (d :: ds)).flatten =
      (probe ++ rescan ++ [.sleep d]) ++ (lookupBlocks probe rescan ds).flatten := by
  simp [lookupBlocks]

theorem rescan_before_sleep (hprobe : ∀ a ∈ probe, a.isStat = true)
    (hrescan : ∀ d, .sleep d ∉ rescan) {d : Duration}
    (h : (lookupBlocks probe rescan ds).flatten = as ++ .sleep d :: bs) : rescan <:+ as := by
  have hnot : .sleep d ∉ probe := fun hd => Bool.false_ne_true (hprobe _ hd)
  induction ds generalizing as with
  | nil =>
      have hmem : .sleep d ∈ (lookupBlocks probe rescan []).flatten := by rw [h]; simp
      exact absurd (by simpa [lookupBlocks] using hmem) hnot
  | cons d' ds ih =>
      rw [flatten_lookupBlocks_cons] at h
      rcases split_append h with ⟨cs, hcs⟩ | ⟨cs, rfl, hcs⟩
      · rcases split_append hcs with ⟨es, hes⟩ | ⟨es, rfl, hes⟩
        · have hmem : .sleep d ∈ probe ++ rescan := by rw [hes]; simp
          exact absurd hmem (by simp [hnot, hrescan d])
        · rcases List.singleton_eq_append_iff.1 hes with ⟨rfl, -⟩ | ⟨-, hes⟩
          · exact ⟨probe, by simp⟩
          · cases hes
      · exact (ih hcs).trans (List.suffix_append _ _)

theorem isStat_of_last_probe (hprobe : ∀ a ∈ probe, a.isStat = true)
    (hrescan : ∀ a ∈ rescan, a.isStat = false) {a : HostAction}
    (h : (lookupBlocks probe rescan ds).flatten = as ++ a :: bs)
    (has : probe.length * ds.length < as.countP HostAction.isStat) : a.isStat = true := by
  induction ds generalizing as with
  | nil => exact hprobe a (by simp [show probe = as ++ a :: bs by simpa [lookupBlocks] using h])
  | cons d ds ih =>
      have hround : (probe ++ rescan ++ [HostAction.sleep d]).countP HostAction.isStat =
          probe.length := by
        have hp := List.countP_eq_length.2 hprobe
        have hr : rescan.countP HostAction.isStat = 0 :=
          List.countP_eq_zero.2 fun a ha => Bool.not_eq_true _ ▸ hrescan a ha
        simp [List.countP_append, hp, hr, HostAction.isStat]
      rw [flatten_lookupBlocks_cons] at h
      rw [List.length_cons, Nat.mul_succ] at has
      rcases split_append h with ⟨cs, hcs⟩ | ⟨cs, rfl, hcs⟩
      · rw [hcs, List.countP_append] at hround
        omega
      · rw [List.countP_append, hround] at has
        exact ih hcs (by omega)

theorem mem_lookupBlocks {a : HostAction} (h : a ∈ (lookupBlocks probe rescan ds).flatten) :
    a ∈ probe ∨ a ∈ rescan ∨ ∃ d ∈ ds, a = .sleep d := by
  induction ds with
  | nil => exact .inl (by simpa [lookupBlocks] using h)
  | cons d ds ih =>
      rw [flatten_lookupBlocks_cons, List.mem_append] at h
      rcases h with h | h
      · simp only [List.mem_append, List.mem_singleton] at h
        rcases h with (h | h) | h
        · exact .inl h
        · exact .inr (.inl h)
        · exact .inr (.inr ⟨d, List.mem_cons_self, h⟩)
      · exact (ih h).imp_right (.imp_right fun ⟨e, he, ha⟩ => ⟨e, List.mem_cons_of_mem _ he, ha⟩)

end lookupBlocks

namespace Volume

open LiveHost

variable {s t : LiveHost}

theorem scsiHosts_of_scanned {names : List String} (h : Scanned names s t) :
    t.host.scsiHosts = s.host.scsiHosts := by
  rw [h.host]
  rfl

theorem scsiHosts_of_sleep {d : Duration} {token : CancelToken} {outcome : WaitOutcome}
    (h : answer (.sleep d token) s = (outcome, t)) : t.host.scsiHosts = s.host.scsiHosts := by
  have hs := scsiHosts_of_scanned (scanned_proceed s)
  obtain ⟨signals, -, ⟨hsleep, -⟩ | ⟨hsleep, -⟩⟩ := s.proceed.host.sleep_cases d token
  all_goals
    simp only [answer, ScriptedHost.answer, hsleep] at h
    cases h
    exact hs

theorem Course.cutOff {config : Config} {token : CancelToken} {ps : List Path}
    {ds : List Duration} {xs : List (Plan.Exchange Host)} {e : LookupEnd}
    (h : Course config token ps ds s xs e t) :
    CutOff ps (lookupBlocks (ps.map .stat) (rescanActions config s.host.scsiHosts) ds) xs := by
  induction h with
  | cancelled => exact .inl ⟨[], List.nil_prefix, rfl, nofun⟩
  | @found ds s t xs p live idle attempt =>
      cases attempt with
      | present split absent present =>
          refine .inr ⟨[], [], _, p, _, _, ?_, split, rfl, nofun, rfl, nofun⟩
          cases ds <;> simp [lookupBlocks]
  | @failed ds s t xs e live idle attempt =>
      cases attempt with
      | fault split absent fault =>
          refine .inr ⟨[], [], _, _, _, _, ?_, split, rfl, nofun, rfl, nofun⟩
          cases ds <;> simp [lookupBlocks]
  | exhausted live idle attempt =>
      obtain ⟨rfl, hx⟩ := attempt.fruitless
      exact .inl ⟨_, List.prefix_refl _, by simp [lookupBlocks], hx⟩
  | @interrupted d ds s t u v w xs ys live idle attempt rescan wait idle' =>
      obtain ⟨rfl, hx⟩ := attempt.fruitless
      rcases rescan with ⟨-, rfl, -⟩ | rescan
      · refine .inl ⟨[ps.map .stat], by simp [lookupBlocks], ?_, ?_⟩
        · simp [List.filterMap_cons]
        · simpa using hx.append (fruitless_waited _ _ _)
      · refine .inl ⟨[ps.map .stat, rescanActions config s.host.scsiHosts],
          by simp [lookupBlocks], ?_, (hx.append rescan.fruitless).append (fruitless_waited _ _ _)⟩
        simp [List.filterMap_cons, rescan.actions, scsiHosts_of_scanned idle]
  | @again d ds s t u v w xs ys zs e live idle attempt rescan wait rest ih =>
      obtain ⟨rfl, hx⟩ := attempt.fruitless
      have hhosts : v.host.scsiHosts = s.host.scsiHosts := by
        rw [scsiHosts_of_sleep wait, scsiHosts_of_scanned rescan.scanned, scsiHosts_of_scanned idle]
      rw [hhosts] at ih
      refine ih.after_round (hx.append rescan.fruitless) ?_ d token
      simp [rescan.actions, scsiHosts_of_scanned idle]

theorem isStat_of_mem_rescanActions {config : Config} {names : List String} {a : HostAction}
    (h : a ∈ rescanActions config names) : a.isStat = false ∧ ∀ d, a ≠ .sleep d := by
  simp only [rescanActions, List.mem_cons, List.mem_append, List.mem_map, List.not_mem_nil,
    or_false] at h
  rcases h with rfl | ⟨name, -, rfl⟩ | rfl
  all_goals
    refine ⟨rfl, fun d hd => ?_⟩
    cases hd

/-- What a host remembers of a lookup is probes, rescans and waits in turn, cut off where the lookup
ends: a probe is cut off where it finds something or fails, and nothing follows it. So a wait comes
directly after a rescan, only looks come after the last wait that the schedule has, and nothing but
looks, rescans and waits is ever remembered. -/
theorem findDevice_trace (config : Config) (token : CancelToken) (volume : String) (s : LiveHost) :
    let (xs, _, t) := (findDevice config token volume).run.record answer s
    let probe := (candidates (serial volume)).map HostAction.stat
    let rescan := rescanActions config s.host.scsiHosts
    let delays := config.retry.schedule.delays
    ∃ done, t.host.actions = s.host.actions ++ done ∧
      done = (asked xs).filterMap HostAction.ofExchange? ∧
      CutOff (candidates (serial volume)) (lookupBlocks probe rescan delays) (asked xs) ∧
      (∀ as a bs, done = as ++ a :: bs →
        probe.length * (config.retry.steps - 1) < as.countP HostAction.isStat →
          a.isStat = true) ∧
      (∀ as d bs, done = as ++ .sleep d :: bs → rescan <:+ as) ∧
      ∀ a ∈ done, a ∈ probe ∨ a ∈ rescan ∨ ∃ d ∈ delays, a = .sleep d := by
  rcases hrun : (findDevice config token volume).run.record answer s with ⟨xs, result, t⟩
  obtain ⟨e, hcourse, -⟩ := findDevice_course hrun
  have hactions := actions_record (findDevice config token volume).run s
  rw [hrun, ← filterMap_asked] at hactions
  have hcut := hcourse.cutOff
  obtain ⟨rest, hrest⟩ := hcut.flatten_prefix
  have hprobe : ∀ a ∈ (candidates (serial volume)).map HostAction.stat, a.isStat = true := by
    intro a ha
    obtain ⟨p, -, rfl⟩ := List.mem_map.1 ha
    rfl
  refine ⟨_, hactions, rfl, hcut, fun as a bs hdone has => ?_, fun as d bs hdone => ?_,
    fun a ha => mem_lookupBlocks (hrest ▸ List.mem_append_left _ ha)⟩
  all_goals rw [hdone, List.append_assoc] at hrest
  · refine isStat_of_last_probe hprobe (fun a ha => (isStat_of_mem_rescanActions ha).1)
      hrest.symm ?_
    rwa [RetrySchedule.length_delays]
  · exact rescan_before_sleep hprobe (fun d hd => (isStat_of_mem_rescanActions hd).2 d rfl)
      hrest.symm

end Volume

end BlockVolume
