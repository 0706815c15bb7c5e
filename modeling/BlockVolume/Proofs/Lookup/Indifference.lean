import BlockVolume.Proofs.Lookup.HotPlug

namespace BlockVolume

namespace ScriptedHost

/-- Two hosts that are told the same, apart from what is below `/sys` and from what fails in a
rescan. -/
structure Alike (g h : ScriptedHost) : Prop where
  present : ∀ steps : List Component, steps[1]? ≠ some (.name "sys") →
    (steps ∈ g.present ↔ steps ∈ h.present)
  statFailures : g.statFailures = h.statFailures
  statErrnos : g.statErrnos = h.statErrnos
  pending : g.pending = h.pending
  mounts : g.mounts = h.mounts
  contents : g.contents = h.contents
  cancelOnSleep : g.cancelOnSleep = h.cancelOnSleep
  sleeps : g.sleeps = h.sleeps

variable {g h : ScriptedHost}

theorem Alike.stat (hgh : Alike g h) {p : Path} (hp : p.components[1]? ≠ some (.name "sys")) :
    g.stat p = h.stat p := by
  have hhas : g.has p = h.has p := by
    simp only [has, List.contains_eq_mem, hgh.present _ hp]
  simp only [ScriptedHost.stat, hgh.statFailures, hgh.statErrnos, hhas]

theorem Alike.cancelIndex (hgh : Alike g h) (token : CancelToken) :
    g.cancelIndex token = h.cancelIndex token := by
  simp only [ScriptedHost.cancelIndex, hgh.cancelOnSleep, hgh.sleeps]

theorem Alike.begun (hgh : Alike g h) (a b : Signals) :
    Alike { g with sleeps := g.sleeps + 1, signals := a }
      { h with sleeps := h.sleeps + 1, signals := b } :=
  { hgh with sleeps := congrArg (· + 1) hgh.sleeps }

theorem Alike.comeNearer (hgh : Alike g h) : Alike g.comeNearer h.comeNearer := by
  refine { hgh with present := fun steps hsteps => ?_, pending := ?_ }
  · simp only [ScriptedHost.comeNearer, List.mem_append, hgh.present steps hsteps, hgh.pending]
  · simp only [ScriptedHost.comeNearer, hgh.pending]

theorem Alike.remember (hgh : Alike g h) (a b : HostAction) :
    Alike (g.remember a) (h.remember b) :=
  { hgh with }

end ScriptedHost

namespace HostAction

def looksOrWaits (a : HostAction) : Bool := a.isStat || a.isSleep

end HostAction

def lookedOrWaited (xs : List (Plan.Exchange Host)) : List HostAction :=
  (xs.filterMap HostAction.ofExchange?).filter HostAction.looksOrWaits

theorem lookedOrWaited_append (xs ys : List (Plan.Exchange Host)) :
    lookedOrWaited (xs ++ ys) = lookedOrWaited xs ++ lookedOrWaited ys := by
  simp [lookedOrWaited]

namespace Volume

open LiveHost

def attempt (h : ScriptedHost) :
    List Path → List (Plan.Exchange Host) × Except HostError (Option Path)
  | [] => ([], .ok none)
  | p :: ps =>
    match h.stat p with
    | .ok true => ([looked p (.ok true)], .ok (some p))
    | .ok false =>
      let (xs, found) := attempt h ps
      (missing p :: xs, found)
    | .error e => ([looked p (.error e)], .error e)

theorem attempt_of_absent {h : ScriptedHost} {higher ps : List Path}
    (absent : ∀ q ∈ higher, h.stat q = .ok false) :
    attempt h (higher ++ ps) = (higher.map missing ++ (attempt h ps).1, (attempt h ps).2) := by
  induction higher with
  | nil => rfl
  | cons q higher ih =>
      obtain ⟨hq, habsent⟩ := List.forall_mem_cons.1 absent
      simp only [List.cons_append, attempt, hq, ih habsent, List.map_cons]

theorem Attempt.eq_attempt {h : ScriptedHost} {ps : List Path} {xs : List (Plan.Exchange Host)}
    {found : Except HostError (Option Path)} (ha : Attempt h ps xs found) :
    attempt h ps = (xs, found) := by
  cases ha with
  | present split absent present =>
      rw [split, attempt_of_absent absent]
      simp only [attempt, present]
  | fault split absent fault =>
      rw [split, attempt_of_absent absent]
      simp only [attempt, fault]
  | absent absent =>
      have hall : attempt h (ps ++ []) = (ps.map missing ++ [], .ok none) :=
        attempt_of_absent absent
      rwa [List.append_nil, List.append_nil] at hall

theorem attempt_congr {g h : ScriptedHost} {ps : List Path}
    (hps : ∀ p ∈ ps, g.stat p = h.stat p) : attempt g ps = attempt h ps := by
  induction ps with
  | nil => rfl
  | cons p ps ih =>
      obtain ⟨hp, hps⟩ := List.forall_mem_cons.1 hps
      simp only [attempt, hp, ih hps]

theorem attempt_of_alike {g h : ScriptedHost} (hgh : g.Alike h) (serial : String) :
    attempt g (candidates serial) = attempt h (candidates serial) := by
  refine attempt_congr fun p hp => hgh.stat ?_
  rw [components_of_mem_candidates hp]
  decide

section

variable {config : Config} {token : CancelToken} {ps : List Path} {ds : List Duration}
  {s s' t t' u v : LiveHost} {xs ys : List (Plan.Exchange Host)} {e e' : LookupEnd}

/-- What comes after an attempt, by what it found: the end of the lookup, or a rescan and a wait. -/
def Sequel (config : Config) (token : CancelToken) (ps : List Path) :
    Except HostError (Option Path) → List Duration → LiveHost → List (Plan.Exchange Host) →
      LookupEnd → LiveHost → Prop
  | .ok (some p), _, s, xs, e, t => xs = [] ∧ e = .found p ∧ t = s
  | .error error, _, s, xs, e, t => xs = [] ∧ e = .failed error ∧ t = s
  | .ok none, [], s, xs, e, t => xs = [] ∧ e = .exhausted ∧ t = s
  | .ok none, d :: ds, s, xs, e, t => ∃ u v ys zs, Rescanned config ys s u ∧
      (answer (.sleep d token) u = (.cancelled, v) ∧ Scanned [] v t ∧ e = .cancelled ∧
          zs = [waited d token .cancelled] ∨
        answer (.sleep d token) u = (.elapsed, v) ∧ ∃ rest, Course config token ps ds v rest e t ∧
          zs = waited d token .elapsed :: rest) ∧ xs = ys ++ zs

theorem Course.attempted (h : Course config token ps ds s xs e t) (hs : Steady token s)
    (hl : token.family ∉ s.host.signals.raised) (hd : t.host.signals.DeadlineAhead token) :
    ∃ u found ys zs, Scanned [] s u ∧ Attempt u.host ps ys found ∧
      Sequel config token ps found ds u zs e t ∧ xs = ys ++ zs := by
  cases h with
  | cancelled idle hover => exact absurd (hd.isCancelled_iff.1 hover) (hs.lowered idle hl)
  | found live idle attempt =>
      exact ⟨t, _, xs, [], idle, attempt, ⟨rfl, rfl, rfl⟩, (List.append_nil _).symm⟩
  | failed live idle attempt =>
      exact ⟨t, _, xs, [], idle, attempt, ⟨rfl, rfl, rfl⟩, (List.append_nil _).symm⟩
  | exhausted live idle attempt =>
      exact ⟨t, _, xs, [], idle, attempt, ⟨rfl, rfl, rfl⟩, (List.append_nil _).symm⟩
  | @interrupted d ds _ u v w _ xs ys live idle attempt rescan wait idle' =>
      rcases rescan with ⟨hidle, -, hover⟩ | rescan
      · have hahead := (later_answer wait).deadlineAhead (idle'.later.deadlineAhead hd)
        exact absurd (hahead.isCancelled_iff.1 hover) (hs.lowered (idle.trans hidle) hl)
      · exact ⟨u, _, xs, _, idle, attempt,
          ⟨v, w, ys, _, rescan, .inl ⟨wait, idle', rfl, rfl⟩, rfl⟩, List.append_assoc ..⟩
  | @again d ds _ u v w _ xs ys zs _ live idle attempt rescan wait rest =>
      exact ⟨u, _, xs, _, idle, attempt,
        ⟨v, w, ys, _, rescan, .inr ⟨wait, zs, rest, rfl⟩, rfl⟩, List.append_assoc ..⟩

theorem alike_scanned {a b : List String} (hst : s.host.Alike t.host)
    (ha : ∀ name ∈ a, '/' ∉ name.toList) (hb : ∀ name ∈ b, '/' ∉ name.toList)
    (hs : Scanned a s s') (ht : Scanned b t t') : s'.host.Alike t'.host := by
  have hscanned {names : List String} (hnames : ∀ name ∈ names, '/' ∉ name.toList)
      (h : ScriptedHost) {steps : List Component} (hsteps : steps[1]? ≠ some (.name "sys")) :
      steps ∉ h.scanned names := by
    intro hmem
    obtain ⟨hmem, -⟩ := List.mem_filter.1 hmem
    obtain ⟨name, hname, rfl⟩ := List.mem_map.1 hmem
    exact hsteps (components_scanFile (hnames name hname))
  rw [hs.host, ht.host]
  refine { hst with present := fun steps hsteps => ?_ }
  simp only [List.mem_append, List.mem_reverse, hscanned ha _ hsteps, hscanned hb _ hsteps,
    false_or]
  exact hst.present steps hsteps

theorem alike_idle (hst : s.host.Alike t.host) (hs : Scanned [] s s') (ht : Scanned [] t t') :
    s'.host.Alike t'.host :=
  alike_scanned hst (by simp) (by simp) hs ht

theorem alike_sleep (hst : s.host.Alike t.host) {d : Duration} {outcome : WaitOutcome}
    (hs : answer (.sleep d token) s = (outcome, s'))
    (ht : answer (.sleep d token) t = (outcome, t')) :
    s'.host.Alike t'.host := by
  obtain ⟨a, ha⟩ := host_of_sleep hs
  obtain ⟨b, hb⟩ := host_of_sleep ht
  rw [ha, hb]
  cases outcome with
  | cancelled => exact hst.begun a b
  | elapsed => exact ((hst.begun a b).remember _ _).comeNearer

theorem Rescanned.lookedOrWaited {config : Config} (h : Rescanned config xs s t) :
    lookedOrWaited xs = [] := by
  rw [BlockVolume.lookedOrWaited, h.actions, List.filter_eq_nil_iff]
  intro a ha
  obtain ⟨hstat, hsleep⟩ := isStat_of_mem_rescanActions ha
  cases a with
  | sleep d => exact absurd rfl (hsleep d)
  | _ => simpa [HostAction.looksOrWaits, HostAction.isSleep] using hstat

theorem Steady.not_elapsed (hs : Steady token s) (ht : Steady token t)
    (hls : token.family ∉ s.host.signals.raised) (hlt : token.family ∉ t.host.signals.raised)
    (hindex : s.host.cancelIndex token = t.host.cancelIndex token) {d : Duration}
    (hcancelled : answer (.sleep d token) s = (.cancelled, s'))
    (hd : s'.host.signals.DeadlineAhead token) : answer (.sleep d token) t ≠ (.elapsed, t') := by
  intro helapsed
  obtain ⟨-, -, hnext⟩ := ht.elapsed hlt helapsed
  rw [← hindex, hs.cancelled hls hcancelled hd] at hnext
  obtain ⟨n, hn, hsucc⟩ := Option.map_eq_some_iff.1 hnext.symm
  obtain rfl : n = 0 := Nat.succ.inj hsucc
  exact ScriptedHost.one_le_cancelIndex (within_zero.2 hn)

end

structure Agree (xs ys : List (Plan.Exchange Host)) (e f : LookupEnd) (s t : LiveHost) : Prop where
  ends : e = f
  seen : lookedOrWaited xs = lookedOrWaited ys
  hosts : s.host.Alike t.host

section

variable {config : Config} {token : CancelToken} {serial : String} {ds : List Duration}
  {s s' t t' : LiveHost} {as bs xs ys : List (Plan.Exchange Host)} {e f : LookupEnd}

theorem Agree.append (h : Agree xs ys e f s t) (hab : lookedOrWaited as = lookedOrWaited bs) :
    Agree (as ++ xs) (bs ++ ys) e f s t :=
  { h with seen := by rw [lookedOrWaited_append, lookedOrWaited_append, hab, h.seen] }

theorem Course.attempted_alike (hs : Course config token (candidates serial) ds s xs e s')
    (ht : Course config token (candidates serial) ds t ys f t') (halike : s.host.Alike t.host)
    (hss : Steady token s) (hst : Steady token t) (hls : token.family ∉ s.host.signals.raised)
    (hlt : token.family ∉ t.host.signals.raised) (hds : s'.host.signals.DeadlineAhead token)
    (hdt : t'.host.signals.DeadlineAhead token) :
    ∃ u v found as xs' ys', Scanned [] s u ∧ Scanned [] t v ∧ u.host.Alike v.host ∧
      Sequel config token (candidates serial) found ds u xs' e s' ∧
      Sequel config token (candidates serial) found ds v ys' f t' ∧
      xs = as ++ xs' ∧ ys = as ++ ys' := by
  obtain ⟨u, found, as, xs', hsu, ha, hnext, rfl⟩ := hs.attempted hss hls hds
  obtain ⟨v, found', bs, ys', htv, hb, hnext', rfl⟩ := ht.attempted hst hlt hdt
  have huv := alike_idle halike hsu htv
  have hsame : (bs, found') = (as, found) := by
    rw [← hb.eq_attempt, ← ha.eq_attempt, attempt_of_alike huv]
  obtain ⟨rfl, rfl⟩ := Prod.mk.inj hsame
  exact ⟨u, v, found', bs, xs', ys', hsu, htv, huv, hnext, hnext', rfl, rfl⟩

theorem Course.agree (hs : Course config token (candidates serial) ds s xs e s')
    (ht : Course config token (candidates serial) ds t ys f t') (halike : s.host.Alike t.host)
    (hss : Steady token s) (hst : Steady token t) (hls : token.family ∉ s.host.signals.raised)
    (hlt : token.family ∉ t.host.signals.raised) (hds : s'.host.signals.DeadlineAhead token)
    (hdt : t'.host.signals.DeadlineAhead token) : Agree xs ys e f s' t' := by
  induction ds generalizing s t xs ys with
  | nil =>
      obtain ⟨u, v, found, as, _, _, -, -, huv, hnext, hnext', rfl, rfl⟩ :=
        hs.attempted_alike ht halike hss hst hls hlt hds hdt
      refine Agree.append ?_ rfl
      rcases found with error | _ | p
      all_goals
        obtain ⟨rfl, rfl, rfl⟩ := hnext
        obtain ⟨rfl, rfl, rfl⟩ := hnext'
        exact ⟨rfl, rfl, huv⟩
  | cons d ds ih =>
      obtain ⟨u, v, found, as, _, _, hsu, htv, huv, hnext, hnext', rfl, rfl⟩ :=
        hs.attempted_alike ht halike hss hst hls hlt hds hdt
      refine Agree.append ?_ rfl
      rcases found with error | _ | p
      case ok.none =>
        obtain ⟨u₁, u₂, ys, zs, hscan, hwait, rfl⟩ := hnext
        obtain ⟨v₁, v₂, ys', zs', hscan', hwait', rfl⟩ := hnext'
        have hu := (hss.scanned hsu).scanned hscan.scanned
        have hv := (hst.scanned htv).scanned hscan'.scanned
        have hlu := (hss.scanned hsu).lowered hscan.scanned (hss.lowered hsu hls)
        have hlv := (hst.scanned htv).lowered hscan'.scanned (hst.lowered htv hlt)
        have halike := alike_scanned huv (hss.scanned hsu).names (hst.scanned htv).names
          hscan.scanned hscan'.scanned
        -- which wait is cancelled depends on their number alone, so both are or neither is
        have hindex := halike.cancelIndex token
        refine Agree.append ?_ (hscan.lookedOrWaited.trans hscan'.lookedOrWaited.symm)
        rcases hwait with ⟨hwait, hidle, rfl, rfl⟩ | ⟨hwait, xs, hrest, rfl⟩
        · have hds := hidle.later.deadlineAhead hds
          rcases hwait' with ⟨hwait', hidle', rfl, rfl⟩ | ⟨hwait', -⟩
          · exact ⟨rfl, rfl, alike_idle (alike_sleep halike hwait hwait') hidle hidle'⟩
          · exact absurd hwait' (hu.not_elapsed hv hlu hlv hindex hwait hds)
        · rcases hwait' with ⟨hwait', hidle', -, -⟩ | ⟨hwait', ys, hrest', rfl⟩
          · have hdt := hidle'.later.deadlineAhead hdt
            exact absurd hwait (hv.not_elapsed hu hlv hlu hindex.symm hwait' hdt)
          · obtain ⟨hu₂, hlu₂, -⟩ := hu.elapsed hlu hwait
            obtain ⟨hv₂, hlv₂, -⟩ := hv.elapsed hlv hwait'
            have hagree := ih hrest hrest' (alike_sleep halike hwait hwait') hu₂ hv₂ hlu₂ hlv₂
            rw [← List.singleton_append, ← @List.singleton_append _ _ ys]
            exact hagree.append rfl
      all_goals
        obtain ⟨rfl, rfl, rfl⟩ := hnext
        obtain ⟨rfl, rfl, rfl⟩ := hnext'
        exact ⟨rfl, rfl, huv⟩

theorem Course.of_over {ps : List Path} (h : Course config token ps ds s xs e t)
    (hs : s.host.signals.isCancelled token = true) : e = .cancelled ∧ xs = [] ∧ Scanned [] s t := by
  cases h with
  | cancelled idle _ => exact ⟨rfl, rfl, idle⟩
  | found live | failed live | exhausted live | interrupted live | again live =>
      rw [hs] at live
      cases live

end

/-- On two hosts without a clock of their own that differ in nothing but which writes fail, which
programs fail and which SCSI hosts are listed, lookups end alike and look and wait alike, and they
leave the same mounts, the same contents of devices and the same pending paths. No deadline may
come while they run. -/
theorem findDevice_indifferent (config : Config) (token : CancelToken) (volume : String)
    (s t : LiveHost) (hss : Steady token s) (hst : Steady token t) (halike : s.host.Alike t.host)
    (hcancelled : s.host.signals.isCancelled token = t.host.signals.isCancelled token)
    (hds : s.host.signals.isCancelled token = false →
      ((findDevice config token volume).run.record answer s).2.2.host.signals.DeadlineAhead token)
    (hdt : t.host.signals.isCancelled token = false →
      ((findDevice config token volume).run.record answer t).2.2.host.signals.DeadlineAhead token) :
    let (_, result, s') := (findDevice config token volume).run.record answer s
    let (_, result', t') := (findDevice config token volume).run.record answer t
    result = result' ∧
      (∃ done done', s'.host.actions = s.host.actions ++ done ∧
        t'.host.actions = t.host.actions ++ done' ∧
          done.filter HostAction.looksOrWaits = done'.filter HostAction.looksOrWaits) ∧
      s'.host.mounts = t'.host.mounts ∧ s'.host.contents = t'.host.contents ∧
        s'.host.pending = t'.host.pending := by
  have hactions := actions_record (findDevice config token volume).run
  have hs := hactions s
  have ht := hactions t
  rcases hrun : (findDevice config token volume).run.record answer s with ⟨xs, result, s'⟩
  rcases hrun' : (findDevice config token volume).run.record answer t with ⟨ys, result', t'⟩
  obtain ⟨e, hcourse, hresult⟩ := findDevice_course hrun
  obtain ⟨f, hcourse', hresult'⟩ := findDevice_course hrun'
  rw [hrun, ← filterMap_asked] at hs
  rw [hrun', ← filterMap_asked] at ht
  rw [hrun] at hds
  rw [hrun'] at hdt
  have hagree : Agree (asked xs) (asked ys) e f s' t' := by
    cases hc : s.host.signals.isCancelled token with
    | true =>
        obtain ⟨rfl, hx, hidle⟩ := hcourse.of_over hc
        obtain ⟨rfl, hy, hidle'⟩ := hcourse'.of_over (hcancelled ▸ hc)
        exact ⟨rfl, by rw [hx, hy], alike_idle halike hidle hidle'⟩
    | false =>
        have hc' := hcancelled ▸ hc
        have hls (hf : token.family ∈ s.host.signals.raised) : False :=
          Bool.eq_false_iff.1 hc ((Signals.isCancelled_iff _ _).2 (.inl hf))
        have hlt (hf : token.family ∈ t.host.signals.raised) : False :=
          Bool.eq_false_iff.1 hc' ((Signals.isCancelled_iff _ _).2 (.inl hf))
        exact hcourse.agree hcourse' halike hss hst hls hlt (hds hc) (hdt hc')
  refine ⟨?_, ⟨_, _, hs, ht, hagree.seen⟩, hagree.hosts.mounts, hagree.hosts.contents,
    hagree.hosts.pending⟩
  rw [hresult, hresult', hagree.ends]

theorem findDevice_indifferent_failing_scan :
    let token : CancelToken := ⟨0, some ⟨1000000000000⟩⟩
    let bare := ScriptedHost.empty.addLater ⟨"/dev/disk/by-id/virtio-disk"⟩ 1
    let failing := { bare.addListing scsiHostDirectory ["host0", "host1"] with
      failingWrites := [(scanFile "host0").components], failingPrograms := ["udevadm"] }
    let s : LiveHost := ⟨failing, []⟩
    let t : LiveHost := ⟨bare, [⟨Duration.ofSecs 1, [⟨1, none⟩]⟩]⟩
    let (_, result, s') := (findDevice Config.standard token "disk").run.record answer s
    let (_, result', t') := (findDevice Config.standard token "disk").run.record answer t
    (Steady token s ∧ Steady token t ∧ s.host.Alike t.host ∧
      s.host.signals.isCancelled token = t.host.signals.isCancelled token ∧
      s'.host.signals.DeadlineAhead token ∧ t'.host.signals.DeadlineAhead token) ∧
    s.host.scsiHosts ≠ t.host.scsiHosts ∧ result = result' ∧ s'.host.pending = t'.host.pending := by
  intro token bare failing s t
  have hss : Steady token s := ⟨rfl, by decide, by decide⟩
  have hst : Steady token t := ⟨rfl, by decide, by decide⟩
  have halike : s.host.Alike t.host := by
    refine ⟨fun steps hsteps => ?_, rfl, rfl, rfl, rfl, rfl, rfl, rfl⟩
    have hbare : t.host.present = [] := rfl
    have hlisted : ∀ x ∈ s.host.present, x[1]? = some (.name "sys") := by decide
    simp only [hbare, List.not_mem_nil, iff_false]
    exact fun hmem => hsteps (hlisted steps hmem)
  have hds : ((findDevice Config.standard token "disk").run.record answer
      s).2.2.host.signals.DeadlineAhead token := by
    intro d hd
    cases hd
    decide
  have hdt : ((findDevice Config.standard token "disk").run.record answer
      t).2.2.host.signals.DeadlineAhead token := by
    intro d hd
    cases hd
    decide
  have hsame : s.host.signals.isCancelled token = t.host.signals.isCancelled token := rfl
  have hhosts : s.host.scsiHosts ≠ t.host.scsiHosts := by decide
  clear_value s t token
  obtain ⟨hresult, -, -, -, hpending⟩ := findDevice_indifferent Config.standard token "disk" s t hss
    hst halike hsame (fun _ => hds) (fun _ => hdt)
  exact ⟨⟨hss, hst, halike, hsame, hds, hdt⟩, hhosts, hresult, hpending⟩

end Volume

end BlockVolume
