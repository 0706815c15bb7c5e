import BlockVolume.Proofs.LiveHost
import BlockVolume.Volume.Lookup

namespace BlockVolume

namespace ScriptedHost

def scsiHosts (h : ScriptedHost) : List String :=
  (h.listings.lookup Volume.scsiHostDirectory.components).getD []

def scanned (h : ScriptedHost) (names : List String) : List (List Component) :=
  (names.map fun name => (Volume.scanFile name).components).filter
    fun steps => !h.failingWrites.contains steps

theorem mem_scanned {h : ScriptedHost} {names : List String} {steps : List Component} :
    steps ∈ h.scanned names ↔
      ∃ name ∈ names, (Volume.scanFile name).components = steps ∧
        (Volume.scanFile name).components ∉ h.failingWrites := by
  simp only [scanned, List.mem_filter, List.mem_map, Bool.not_eq_true', List.contains_eq_mem,
    decide_eq_false_iff_not]
  constructor
  · rintro ⟨⟨name, hname, rfl⟩, hwritten⟩
    exact ⟨name, hname, rfl, hwritten⟩
  · rintro ⟨name, hname, rfl, hwritten⟩
    exact ⟨⟨name, hname, rfl⟩, hwritten⟩

end ScriptedHost

namespace LiveHost

/-- The state `t` comes after `s`: nothing happened but interludes and requests that change
nothing, and the scan files of some SCSI hosts were written. -/
structure Scanned (names : List String) (s t : LiveHost) : Prop where
  host : t.host = { s.host with
    actions := t.host.actions, signals := t.host.signals, logged := t.host.logged
    present := (s.host.scanned names).reverse ++ s.host.present }
  signals : ∃ passed, s.ahead = passed ++ t.ahead ∧
    t.host.signals = passed.foldl Signals.after s.host.signals

theorem Scanned.trans {a b : List String} {s t u : LiveHost} (hst : Scanned a s t)
    (htu : Scanned b t u) : Scanned (a ++ b) s u := by
  obtain ⟨xs, hx, hxs⟩ := hst.signals
  obtain ⟨ys, hy, hys⟩ := htu.signals
  refine ⟨?_, xs ++ ys, by rw [hx, hy, List.append_assoc], by rw [hys, hxs, List.foldl_append]⟩
  have h := htu.host
  rw [hst.host] at h
  rw [h]
  simp [ScriptedHost.scanned]

theorem Scanned.refl (s : LiveHost) : Scanned [] s s :=
  ⟨rfl, [], rfl, rfl⟩

theorem Scanned.later {names : List String} {s t : LiveHost} (h : Scanned names s t) :
    s.host.signals.Later t.host.signals := by
  obtain ⟨passed, -, hp⟩ := h.signals
  rw [hp]
  clear hp
  generalize s.host.signals = u
  induction passed generalizing u with
  | nil => exact .refl u
  | cons i rest ih => exact (Signals.later_after u i).trans (ih _)

theorem Scanned.not_cancelled {names : List String} {s t : LiveHost} (h : Scanned names s t)
    {token : CancelToken} (ht : t.host.signals.isCancelled token = false) :
    s.host.signals.isCancelled token = false :=
  Bool.eq_false_iff.2 fun hs => Bool.eq_false_iff.1 ht (h.later.isCancelled hs)

theorem Scanned.over {names : List String} {s t : LiveHost} (h : Scanned names s t)
    {token : CancelToken} (hs : s.host.Over token) : t.host.Over token := by
  rcases hs with hs | ⟨hclock, hs⟩
  · exact .inl (h.later.isCancelled hs)
  · exact .inr ⟨by rw [h.host]; exact hclock, Nat.le_trans hs h.later.now⟩

theorem scanned_proceed (s : LiveHost) : Scanned [] s s.proceed := by
  unfold proceed
  split
  · exact .refl s
  · next i rest h => exact ⟨rfl, [i], h, rfl⟩

def failing (s : LiveHost) (writes : List (List Component)) (programs : List String) : LiveHost :=
  { s with host := { s.host with failingWrites := writes, failingPrograms := programs } }

theorem signals_proceed_failing (s : LiveHost) (writes : List (List Component))
    (programs : List String) :
    (s.failing writes programs).proceed.host.signals = s.proceed.host.signals := by
  obtain ⟨host, ahead⟩ := s
  cases ahead <;> rfl

def Idle : HostCall → Prop
  | .pathExists _ | .listDirectory _ | .runProgram .. | .isCancelled _ | .log _ => True
  | _ => False

theorem scanned_answer {c : HostCall} {reply : c.Reply} {s t : LiveHost}
    (h : answer c s = (reply, t)) (hc : Idle c) : Scanned [] s t := by
  refine (scanned_proceed s).trans ?_
  cases c with
  | pathExists | listDirectory | runProgram | isCancelled | log =>
      cases h
      exact ⟨rfl, [], rfl, rfl⟩
  | _ => exact hc.elim

theorem isCancelled_answer {token : CancelToken} {b : Bool} {s t : LiveHost}
    (h : answer (.isCancelled token) s = (b, t)) : t.host.signals.isCancelled token = b := by
  cases h
  rfl

theorem scanned_writeFile {name : String} {content : List UInt8} {reply : Except HostError Unit}
    {s t : LiveHost} (h : answer (.writeFile (Volume.scanFile name) content) s = (reply, t)) :
    Scanned [name] s t := by
  refine (scanned_proceed s).trans ?_
  have ht := congrArg Prod.snd h
  simp only [answer, ScriptedHost.answer] at ht
  subst ht
  split
  · next h => exact ⟨by simp_all [ScriptedHost.scanned, ScriptedHost.remember], [], rfl, rfl⟩
  · next h =>
      exact ⟨by simp_all [ScriptedHost.scanned, ScriptedHost.remember, ScriptedHost.add], [], rfl,
        rfl⟩

end LiveHost

namespace Volume

open LiveHost

def RescanCall : HostCall → Prop
  | .listDirectory _ | .writeFile .. | .runProgram .. | .isCancelled _ | .log _ => True
  | _ => False

def RescanStep (config : Config) : HostCall → Prop
  | .listDirectory dir => dir = scsiHostDirectory
  | .writeFile file content => (∃ name, file = scanFile name) ∧ content = scanRequest
  | .runProgram program args limit =>
    program = "udevadm" ∧ args = ["trigger"] ∧ limit = config.udevadmTimeout
  | .isCancelled _ | .log _ => True
  | _ => False

theorem rescanStep_scanHosts (config : Config) (names : List String) :
    Plan.Only (I := Host) (RescanStep config) (scanHosts names) := by
  induction names with
  | nil => trivial
  | cons name rest ih =>
      refine Plan.Only.bind ?_ fun _ => ih
      refine Plan.Only.bind (Host.only_ask trivial) fun _ => ?_
      refine Plan.Only.bind (Host.only_ask ⟨⟨name, rfl⟩, rfl⟩) fun written => ?_
      cases written with
      | ok _ => trivial
      | error e => exact Host.only_ask trivial

theorem rescanStep_rescan (config : Config) (token : CancelToken) :
    Plan.Only (I := Host) (RescanStep config) (rescan config token) := by
  refine Plan.Only.bind (Host.only_ask trivial) fun cancelled => ?_
  cases cancelled with
  | true => exact Host.only_ask trivial
  | false =>
      refine Plan.Only.bind (Host.only_ask trivial) fun _ => ?_
      refine Plan.Only.bind (Plan.Only.bind (Host.only_ask rfl) fun listing => ?_) fun _ => ?_
      · cases listing with
        | ok names => exact rescanStep_scanHosts config names
        | error e => exact Host.only_ask trivial
      · refine Plan.Only.bind (Host.only_ask ⟨rfl, rfl, rfl⟩) fun ended => ?_
        cases ended with
        | ok output =>
            dsimp only
            split
            · trivial
            · exact Host.only_ask trivial
        | error e => exact Host.only_ask trivial

theorem rescanCall_rescan (config : Config) (token : CancelToken) :
    Plan.Only (I := Host) RescanCall (rescan config token) := by
  refine (rescanStep_rescan config token).mono fun c hc => ?_
  cases c with
  | listDirectory | writeFile | runProgram | isCancelled | log => trivial
  | _ => exact hc.elim

/-- What a host remembers of a rescan of the given SCSI hosts. A name that is an absolute path stands
for itself, as wherever paths are joined. -/
def rescanActions (config : Config) (names : List String) : List HostAction :=
  .listDirectory ⟨"/sys/class/scsi_host/"⟩ ::
    ((names.map fun name =>
        .writeFile ((Path.join ⟨"/sys/class/scsi_host/"⟩ ⟨name⟩).join ⟨"scan"⟩)
          [0x2D, 0x20, 0x2D, 0x20, 0x2D]) ++
      [.command "udevadm" ["trigger"] config.udevadmTimeout.secs])

theorem scanRequest_eq : scanRequest = [0x2D, 0x20, 0x2D, 0x20, 0x2D] := by decide

theorem rescanActions_eq (config : Config) (names : List String) :
    rescanActions config names = .listDirectory scsiHostDirectory ::
      ((names.map fun name => .writeFile (scanFile name) scanRequest) ++
        [.command "udevadm" ["trigger"] config.udevadmTimeout.secs]) := by
  rw [scanRequest_eq]
  rfl

theorem log_record {level : LogLevel} {origin : LogOrigin} {message : String} {s t : LiveHost}
    {xs : List (Plan.Exchange Host)}
    (h : (Host.log level origin message).record answer s = (xs, (), t)) :
    Scanned [] s t ∧ asked xs = [] := by
  cases h
  exact ⟨scanned_answer (c := .log _) rfl trivial, rfl⟩

theorem scanHost_record {name : String} {s t : LiveHost} {xs : List (Plan.Exchange Host)}
    (h : (scanHost name).record answer s = (xs, (), t)) :
    Scanned [name] s t ∧
      xs.filterMap HostAction.ofExchange? = [.writeFile (scanFile name) scanRequest] := by
  obtain ⟨_, u, ys, hlog, hu, rfl⟩ := Host.record_ask_bind (.log _) h
  obtain ⟨reply, v, zs, hwrite, hv, rfl⟩ := Host.record_ask_bind (.writeFile _ _) hu
  have hs := (scanned_answer hlog trivial).trans (scanned_writeFile hwrite)
  cases reply with
  | ok _ =>
      cases hv
      exact ⟨hs, rfl⟩
  | error e =>
      cases hv
      exact ⟨hs.trans (scanned_answer (c := .log _) rfl trivial), rfl⟩

theorem scanHosts_record {names : List String} {s t : LiveHost} {xs : List (Plan.Exchange Host)}
    (h : (scanHosts names).record answer s = (xs, (), t)) :
    Scanned names s t ∧ xs.filterMap HostAction.ofExchange? =
      names.map fun name => .writeFile (scanFile name) scanRequest := by
  induction names generalizing s xs with
  | nil =>
      cases h
      exact ⟨.refl _, rfl⟩
  | cons name rest ih =>
      obtain ⟨ys, _, u, zs, hfirst, hrest, rfl⟩ := Plan.record_bind_cases h
      obtain ⟨hs, hy⟩ := scanHost_record hfirst
      obtain ⟨ht, hz⟩ := ih hrest
      exact ⟨hs.trans ht, by rw [List.filterMap_append, hy, hz]; rfl⟩

theorem replayEvents_record {config : Config} {s t : LiveHost} {xs : List (Plan.Exchange Host)}
    (h : (replayEvents config).record answer s = (xs, (), t)) :
    Scanned [] s t ∧ xs.filterMap HostAction.ofExchange? =
      [.command "udevadm" ["trigger"] config.udevadmTimeout.secs] := by
  obtain ⟨reply, u, ys, hrun, hu, rfl⟩ := Host.record_ask_bind (.runProgram ..) h
  have hs := scanned_answer hrun trivial
  cases reply with
  | ok output =>
      dsimp only at hu
      split at hu
      · cases hu
        exact ⟨hs, rfl⟩
      · cases hu
        exact ⟨hs.trans (scanned_answer (c := .log _) rfl trivial), rfl⟩
  | error e =>
      cases hu
      exact ⟨hs.trans (scanned_answer (c := .log _) rfl trivial), rfl⟩

theorem scanAllHosts_record {s t : LiveHost} {xs : List (Plan.Exchange Host)}
    (h : scanAllHosts.record answer s = (xs, (), t)) :
    Scanned s.host.scsiHosts s t ∧ xs.filterMap HostAction.ofExchange? =
      .listDirectory scsiHostDirectory ::
        s.host.scsiHosts.map fun name => .writeFile (scanFile name) scanRequest := by
  obtain ⟨reply, u, ys, hlist, hu, rfl⟩ := Host.record_ask_bind (.listDirectory _) h
  have hs := scanned_answer hlist trivial
  have hreply := congrArg Prod.fst hlist
  simp only [answer, ScriptedHost.answer] at hreply
  rw [show s.proceed.host.listings = s.host.listings by rw [proceed_host]] at hreply
  unfold ScriptedHost.scsiHosts
  cases hl : s.host.listings.lookup scsiHostDirectory.components with
  | some names =>
      rw [hl] at hreply
      cases hreply
      obtain ⟨ht, hy⟩ := scanHosts_record hu
      exact ⟨hs.trans ht, congrArg _ hy⟩
  | none =>
      rw [hl] at hreply
      cases hreply
      cases hu
      exact ⟨hs.trans (scanned_answer (c := .log _) rfl trivial), rfl⟩

theorem rescan_cases {config : Config} {token : CancelToken} {s t : LiveHost}
    {xs : List (Plan.Exchange Host)}
    (h : (rescan config token).record answer s = (xs, (), t)) :
    (s.proceed.host.signals.isCancelled token = true ∧
        Scanned [] s t ∧ asked xs = [] ∧ t.host.signals.isCancelled token = true) ∨
      (s.proceed.host.signals.isCancelled token = false ∧ Scanned s.host.scsiHosts s t ∧
        (asked xs).filterMap HostAction.ofExchange? = rescanActions config s.host.scsiHosts) := by
  obtain ⟨cancelled, u, ys, hlook, hu, rfl⟩ := Host.record_ask_bind (.isCancelled _) h
  have hs := scanned_answer hlook trivial
  have hfound : s.proceed.host.signals.isCancelled token = cancelled := congrArg Prod.fst hlook
  cases cancelled with
  | true =>
      obtain ⟨ht, hy⟩ := log_record hu
      exact .inl ⟨hfound, hs.trans ht, hy, ht.later.isCancelled (isCancelled_answer hlook)⟩
  | false =>
      obtain ⟨_, v, zs, hlog, hv, rfl⟩ := Host.record_ask_bind (.log _) hu
      obtain ⟨as, _, w, bs, hscan, hreplay, rfl⟩ := Plan.record_bind_cases hv
      have hsv := hs.trans (scanned_answer hlog trivial)
      obtain ⟨hvw, ha⟩ := scanAllHosts_record hscan
      obtain ⟨hwt, hb⟩ := replayEvents_record hreplay
      rw [show v.host.scsiHosts = s.host.scsiHosts by rw [hsv.host]; rfl] at hvw ha
      refine .inr ⟨hfound, by simpa using (hsv.trans hvw).trans hwt, ?_⟩
      rw [filterMap_asked]
      change (as ++ bs).filterMap HostAction.ofExchange? = _
      rw [List.filterMap_append, ha, hb, rescanActions_eq]
      rfl

theorem rescan_record {config : Config} {token : CancelToken} {s t : LiveHost}
    {xs : List (Plan.Exchange Host)}
    (h : (rescan config token).record answer s = (xs, (), t)) :
    (Scanned [] s t ∧ asked xs = [] ∧ t.host.signals.isCancelled token = true) ∨
      (Scanned s.host.scsiHosts s t ∧
        (asked xs).filterMap HostAction.ofExchange? = rescanActions config s.host.scsiHosts) :=
  (rescan_cases h).imp And.right And.right

theorem run_rescan (config : Config) (token : CancelToken) (s : LiveHost) :
    ∃ t, (rescan config token).run answer s = ((), t) ∧
      Scanned (if s.proceed.host.signals.isCancelled token then [] else s.host.scsiHosts) s t ∧
      t.host.actions = s.host.actions ++
        if s.proceed.host.signals.isCancelled token then []
        else rescanActions config s.host.scsiHosts := by
  have hactions := actions_record (rescan config token) s
  have hrun := Plan.record_snd answer (rescan config token) s
  rcases hrecord : (rescan config token).record answer s with ⟨xs, ⟨⟩, t⟩
  rw [hrecord] at hrun
  rw [hrecord, ← filterMap_asked] at hactions
  refine ⟨t, hrun.symm, ?_⟩
  rcases rescan_cases hrecord with ⟨hcancelled, hscanned, hasked, -⟩ | ⟨hlive, hscanned, hasked⟩
  · rw [if_pos hcancelled, if_pos hcancelled]
    exact ⟨hscanned, by rw [hactions, hasked, List.filterMap_nil]⟩
  · have hlive := Bool.eq_false_iff.1 hlive
    rw [if_neg hlive, if_neg hlive]
    exact ⟨hscanned, by rw [hactions, hasked]⟩

/-- A rescan that finds its token cancelled, as it does if it was so at the call, asks nothing of the
host and changes nothing of it. Any other lists the SCSI hosts, writes to the scan file of each in
turn and has the device manager replay its events, whichever writes and programs fail. Then the scan
files that could be written are there, and all else is as it was, but that time has passed and others
have cancelled tokens. -/
theorem rescan_effect (config : Config) (token : CancelToken) (s : LiveHost) :
    let t := ((rescan config token).run answer s).2
    let cancelled := s.proceed.host.signals.isCancelled token
    let scans := if cancelled then [] else s.host.scsiHosts
    (s.host.signals.isCancelled token = true → cancelled = true) ∧
    (∃ passed, s.ahead = passed ++ t.ahead ∧ t.host = { s.host with
      actions :=
        s.host.actions ++ if cancelled then [] else rescanActions config s.host.scsiHosts
      present := (s.host.scanned scans).reverse ++ s.host.present
      signals := passed.foldl Signals.after s.host.signals, logged := t.host.logged }) ∧
    (∀ p, t.host.has p = true ↔ s.host.has p = true ∨ ∃ name ∈ scans,
      (scanFile name).same p = true ∧ (scanFile name).components ∉ s.host.failingWrites) ∧
    ∀ writes programs,
      ((rescan config token).run answer (s.failing writes programs)).2.host.actions =
        t.host.actions := by
  intro t cancelled scans
  obtain ⟨_, hrun, hscanned, hactions⟩ := run_rescan config token s
  obtain rfl : t = _ := congrArg Prod.snd hrun
  obtain ⟨passed, hahead, hsignals⟩ := hscanned.signals
  refine ⟨s.later_proceed.isCancelled, ⟨passed, hahead, ?_⟩, fun p => ?_, fun writes programs => ?_⟩
  · rw [← hsignals, ← hactions]
    exact hscanned.host
  · have hpresent : t.host.present = (s.host.scanned scans).reverse ++ s.host.present := by
      rw [hscanned.host]
    simp only [ScriptedHost.has, hpresent, List.contains_eq_mem, decide_eq_true_eq,
      List.mem_append, List.mem_reverse, ScriptedHost.mem_scanned, Path.same, beq_iff_eq, or_comm]
  · obtain ⟨u, hother, -, hsame⟩ := run_rescan config token (s.failing writes programs)
    rw [hother, hsame, signals_proceed_failing, hactions]
    rfl

example :
    let listed := ScriptedHost.empty.addListing scsiHostDirectory ["host0", "host1", "host0"]
    let h := { listed with
      failingWrites := [(scanFile "host0").components], failingPrograms := ["udevadm"] }
    let t := ((rescan Config.standard Signals.root).run answer ⟨h, []⟩).2.host
    t.actions =
        [.listDirectory ⟨"/sys/class/scsi_host/"⟩,
          .writeFile ⟨"/sys/class/scsi_host/host0/scan"⟩ scanRequest,
          .writeFile ⟨"/sys/class/scsi_host/host1/scan"⟩ scanRequest,
          .writeFile ⟨"/sys/class/scsi_host/host0/scan"⟩ scanRequest,
          .command "udevadm" ["trigger"] 30] ∧
      t.has (scanFile "host0") = false ∧ t.has (scanFile "host1") = true := by
  decide +kernel

end Volume

end BlockVolume
