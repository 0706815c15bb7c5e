import BlockVolume.Proofs.CommandLine.Start
import BlockVolume.Proofs.Lookup.Requests
import BlockVolume.Proofs.Mounting.Checking

namespace BlockVolume.CommandLine

open Machine Unix

variable {σ : Type} {handle : Plan.Handler Unix σ} {s t : σ} {xs : List (Plan.Exchange Unix)}

def search (file : Option Path) (volume : String) (timeoutSecs : Option Nat) :
    Run (Config × Path) := do
  let config ← settings file
  let token ← always (lookupToken timeoutSecs)
  let device ← perform (Volume.findDevice config token volume)
  pure (config, device)

def mountFound (target : Path) (fstype : String) (options : MountOptions) :
    Config × Path → Run String
  | (config, device) => do
    perform (Volume.makeDirectory target)
    inContext ("Unable to mount " ++ device.text ++ " at " ++ target.text)
      (perform (Volume.formatAndMount config device target fstype options))
    pure (device.text ++ "\n")

theorem mount_eq (rounds : Nat) (file : Option Path) (volume : String) (target : Path)
    (fstype : String) (options : MountOptions) (timeoutSecs : Option Nat) :
    (settings file >>= fun config =>
        printed rounds config (.mount volume target fstype options timeoutSecs)) =
      search file volume timeoutSecs >>= mountFound target fstype options := by
  simp only [printed, mountVolume, search, mountFound, bind_assoc, pure_bind]

theorem only_perform {P : SystemCall → Prop} {α : Type} {operation : Operation α}
    {Q : HostCall → Prop} (h : Plan.Only (I := Host) Q operation.run)
    (hcall : ∀ c, Q c → P (callOf c)) (hlog : ∀ r, P (.log r)) :
    Plan.Only (I := Unix) P (perform operation).run := by
  refine Plan.Only.bind (h.expand fun c hc => ?_) fun _ => trivial
  have hservice : Plan.Only (I := Unix) P (service c) := ⟨hcall c hc, fun _ => trivial⟩
  rcases perform_eq c with hperform | ⟨record, hperform⟩
  · rw [hperform]
    exact hservice
  · rw [hperform]
    exact Plan.Only.bind ⟨hlog record, fun _ => trivial⟩ fun _ => hservice

theorem only_settings {P : SystemCall → Prop} (hread : ∀ p, P (.readFile p)) (file : Option Path) :
    Plan.Only (I := Unix) P (settings file).run := by
  cases file with
  | none => trivial
  | some p =>
      rw [settings_eq]
      exact ⟨hread p, fun _ => trivial⟩

theorem searchCall_callOf {config : Config} {c : HostCall} (h : Volume.Searching config c) :
    SearchCall (callOf c) := by
  cases c with
  | pathExists | listDirectory | writeFile | sleep | isCancelled | log => trivial
  | runProgram program args limit => exact ⟨h.1, h.2.1⟩
  | _ => exact h.elim

theorem searchCall_search (file : Option Path) (volume : String) (timeoutSecs : Option Nat) :
    Plan.Only (I := Unix) SearchCall (search file volume timeoutSecs).run := by
  refine Plan.only_except_bind (only_settings (fun _ => trivial) file) fun config => ?_
  rw [run_always_bind]
  refine Plan.Only.bind ?_ fun token => ?_
  · cases timeoutSecs with
    | none => trivial
    | some secs => exact ⟨trivial, fun _ => trivial⟩
  · refine Plan.only_except_bind ?_ fun device => trivial
    exact only_perform (Volume.searching_findDevice config token volume)
      (fun c => searchCall_callOf) fun _ => trivial

def madeDirectories (p : Path) (answer : Except IoError Unit) : Plan.Exchange Unix :=
  ⟨SystemCall.makeDirectories p, answer⟩

def Unmounted (xs : List (Plan.Exchange Unix)) : Prop :=
  ∀ source place type flags data, mountCalled source place type flags data (.ok ()) ∉ xs

theorem unmounted_of_asked (h : Unmounted (Unix.asked xs)) : Unmounted xs :=
  fun _ _ _ _ _ hmem => h _ _ _ _ _ (List.mem_filter.2 ⟨hmem, rfl⟩)

theorem unmounted_of_mountCalls (h : mountCalls xs = []) : Unmounted xs := by
  intro source place type flags data hmem
  have hcall : .mount source place type flags data ∈ mountCalls xs :=
    List.mem_filterMap.2 ⟨_, hmem, rfl⟩
  rw [h] at hcall
  cases hcall

theorem Unmounted.append {ys : List (Plan.Exchange Unix)} (hxs : Unmounted xs)
    (hys : Unmounted ys) : Unmounted (xs ++ ys) :=
  fun _ _ _ _ _ hmem => (List.mem_append.1 hmem).elim (hxs _ _ _ _ _) (hys _ _ _ _ _)

theorem mounted_of_course {device target : Path} {fstype : String} {options : MountOptions}
    {ended : Except IoError ProgramEnd} {r : Except VolumeError Unit}
    (h : Volume.SystemCourse device target fstype options ended xs r) :
    r = .ok () ∧ (∃ type flags data, mountCalled device target type flags data (.ok ()) ∈ xs) ∨
      (∃ e, r = .error e) ∧ Unmounted xs := by
  cases h with
  | unknown => exact .inr ⟨⟨_, rfl⟩, unmounted_of_mountCalls rfl⟩
  | unready _ prepared => exact .inr ⟨⟨_, rfl⟩, unmounted_of_mountCalls prepared.mountCalls_eq⟩
  | @ready content ys held _ prepared answer =>
      cases answer with
      | ok _ => exact .inl ⟨rfl, some held, options.flags, options.data, by simp⟩
      | error e =>
          refine .inr ⟨⟨_, rfl⟩, fun source place type flags data hmem => ?_⟩
          rw [← List.cons_append, List.mem_append, List.mem_singleton] at hmem
          rcases hmem with hmem | hmem
          · have hnone : mountCalls (blkidRan device ended :: ys) = [] := prepared.mountCalls_eq
            exact unmounted_of_mountCalls hnone _ _ _ _ _ hmem
          · cases hmem

theorem mounted_of_record {config : Config} {device target : Path} {fstype : String}
    {options : MountOptions} {r : Except VolumeError Unit}
    (h : (onSystem (Volume.formatAndMount config device target fstype options).run).record
      handle s = (xs, r, t)) :
    r = .ok () ∧ (∃ type flags data, mountCalled device target type flags data (.ok ()) ∈ xs) ∨
      (∃ e, r = .error e) ∧ Unmounted xs := by
  have hcourse := Volume.formatAndMount_course handle s config device target fstype options
  rw [h] at hcourse
  rcases mounted_of_course hcourse with ⟨hr, type, flags, data, hmem⟩ | ⟨hr, hnone⟩
  · exact .inl ⟨hr, type, flags, data, (List.mem_filter.1 hmem).1⟩
  · exact .inr ⟨hr, unmounted_of_asked hnone⟩

theorem record_perform {α : Type} {operation : Operation α} {r : Except Failure α}
    (h : (perform operation).run.record handle s = (xs, r, t)) :
    ∃ q, (onSystem operation.run).record handle s = (xs, q, t) ∧
      r = q.mapError Failure.ofVolumeError := by
  obtain ⟨ys, q, u, zs, hrun, hend, rfl⟩ := Plan.record_bind_cases h
  cases hend
  exact ⟨q, by rw [hrun, List.append_nil], rfl⟩

theorem record_inContext {α : Type} {context : String} {part : Run α} {r : Except Failure α}
    (h : (inContext context part).run.record handle s = (xs, r, t)) :
    ∃ q, part.run.record handle s = (xs, q, t) ∧ r = q.mapError (·.within context) := by
  obtain ⟨ys, q, u, zs, hrun, hend, rfl⟩ := Plan.record_bind_cases h
  cases hend
  exact ⟨q, by rw [hrun, List.append_nil], rfl⟩

theorem record_makeDirectory {target : Path} {r : Except Failure Unit}
    (h : (perform (Volume.makeDirectory target)).run.record handle s = (xs, r, t)) :
    ∃ answer, xs = [madeDirectories target answer] ∧
      r = ((ofIo answer).mapError VolumeError.host).mapError Failure.ofVolumeError := by
  cases h
  exact ⟨_, rfl, rfl⟩

theorem mountAt_record {context : String} {config : Config} {device target : Path}
    {fstype : String} {options : MountOptions} {r : Except Failure Unit}
    (h : (inContext context
      (perform (Volume.formatAndMount config device target fstype options))).run.record handle s =
        (xs, r, t)) :
    r = .ok () ∧ (∃ type flags data, mountCalled device target type flags data (.ok ()) ∈ xs) ∨
      (∃ f, r = .error f) ∧ Unmounted xs := by
  obtain ⟨_, hperform, rfl⟩ := record_inContext h
  obtain ⟨q, hmount, rfl⟩ := record_perform hperform
  rcases mounted_of_record hmount with ⟨rfl, hcalled⟩ | ⟨⟨e, rfl⟩, hnone⟩
  · exact .inl ⟨rfl, hcalled⟩
  · exact .inr ⟨⟨_, rfl⟩, hnone⟩

theorem mountFound_record {config : Config} {device target : Path} {fstype : String}
    {options : MountOptions} {r : Except Failure String}
    (h : (mountFound target fstype options (config, device)).run.record handle s = (xs, r, t)) :
    r = .ok (device.text ++ "\n") ∧ madeDirectories target (.ok ()) ∈ xs ∧
        (∃ type flags data, mountCalled device target type flags data (.ok ()) ∈ xs) ∨
      (∃ f, r = .error f) ∧ Unmounted xs := by
  rcases Plan.record_except_cases h with ⟨e, hmake, rfl⟩ | ⟨ys, _, u, zs, hmake, hrest, rfl⟩
  · obtain ⟨answer, rfl, -⟩ := record_makeDirectory hmake
    exact .inr ⟨⟨e, rfl⟩, unmounted_of_mountCalls rfl⟩
  obtain ⟨answer, rfl, hanswer⟩ := record_makeDirectory hmake
  obtain rfl : answer = .ok () := by
    cases answer with
    | ok _ => rfl
    | error e => cases hanswer
  rcases Plan.record_except_cases hrest with
    ⟨e, hmount, rfl⟩ | ⟨as, _, v, bs, hmount, hend, rfl⟩
  · rcases mountAt_record hmount with ⟨hr, -⟩ | ⟨-, hnone⟩
    · cases hr
    · exact .inr ⟨⟨e, rfl⟩, (unmounted_of_mountCalls rfl).append hnone⟩
  · rcases mountAt_record hmount with ⟨-, type, flags, data, hcalled⟩ | ⟨⟨f, hr⟩, -⟩
    · cases hend
      exact .inl ⟨rfl, by simp, type, flags, data, by simp [hcalled]⟩
    · cases hr

def endingOf : Except Failure String → Ending
  | .ok text => .success text
  | .error f => .failure f

theorem record_program {rounds : Nat} {filterText : Option String} {args : List String}
    {i : Invocation} {ending : Ending} (hparse : parse args = some i)
    (h : (program rounds filterText args).record handle s = (xs, ending, t)) :
    ∃ before u rest r,
      (startLog i.logFile i.verbose filterText).record handle s = (before, (), u) ∧
      (settings i.config >>= fun config => printed rounds config i.command).run.record handle u =
        (rest, r, t) ∧
      xs = before ++ rest ∧ ending = endingOf r := by
  unfold program at h
  rw [hparse] at h
  obtain ⟨before, _, u, rest, hstart, hrest, rfl⟩ := Plan.record_bind_cases h
  obtain ⟨during, r, v, last, hcommand, hend, rfl⟩ := Plan.record_bind_cases hrest
  refine ⟨before, u, during, r, hstart, ?_⟩
  cases r with
  | ok text | error f =>
      cases hend
      exact ⟨hcommand, by rw [List.append_nil], rfl⟩

theorem stdout_endingOf {r : Except Failure String} (h : (endingOf r).exitCode ≠ 0) :
    (endingOf r).stdout = "" := by
  cases r with
  | ok text => exact absurd rfl h
  | error f => rfl

theorem programRuns_of_start (h : ∀ x ∈ xs, StartCall x.1) : programRuns xs = [] := by
  refine List.filterMap_eq_nil_iff.2 fun ⟨c, reply⟩ hx => ?_
  have hc : StartCall c := h _ hx
  cases c with
  | spawn => exact hc.elim
  | _ => rfl

theorem programRuns_of_search (h : ∀ x ∈ xs, SearchCall x.1) :
    ∀ ran ∈ programRuns xs, ran = ("udevadm", ["trigger"]) := by
  intro ran hran
  obtain ⟨⟨c, reply⟩, hx, hc⟩ := List.mem_filterMap.1 hran
  have hsearch : SearchCall c := h _ hx
  cases c with
  | spawn program args limit =>
      obtain ⟨rfl, rfl⟩ := hsearch
      exact (Option.some.inj hc).symm
  | _ => cases hc

theorem mountCalls_eq_nil {P : SystemCall → Prop} (h : ∀ x ∈ xs, P x.1)
    (hmount : ∀ source target fstype flags data, ¬ P (.mount source target fstype flags data))
    (hunmount : ∀ target, ¬ P (.unmount target)) : mountCalls xs = [] := by
  refine List.filterMap_eq_nil_iff.2 fun ⟨c, reply⟩ hx => ?_
  have hc : P c := h _ hx
  cases c with
  | mount => exact absurd hc (hmount _ _ _ _ _)
  | unmount => exact absurd hc (hunmount _)
  | _ => rfl

theorem mountCalls_of_start (h : ∀ x ∈ xs, StartCall x.1) : mountCalls xs = [] :=
  mountCalls_eq_nil h (fun _ _ _ _ _ => id) fun _ => id

theorem mountCalls_of_search (h : ∀ x ∈ xs, SearchCall x.1) : mountCalls xs = [] :=
  mountCalls_eq_nil h (fun _ _ _ _ _ => id) fun _ => id

/-- A mount is a search, and if a device was found, what comes after that. -/
theorem record_mount {rounds : Nat} {file : Option Path} {volume : String} {target : Path}
    {fstype : String} {options : MountOptions} {timeoutSecs : Option Nat}
    {r : Except Failure String}
    (h : (settings file >>= fun config => printed rounds config
      (.mount volume target fstype options timeoutSecs)).run.record handle s = (xs, r, t)) :
    ∃ during found u rest,
      (search file volume timeoutSecs).run.record handle s = (during, found, u) ∧
      xs = during ++ rest ∧
      ((∃ f, found = .error f ∧ r = .error f ∧ rest = [] ∧ u = t) ∨
        ∃ config device, found = .ok (config, device) ∧
          (mountFound target fstype options (config, device)).run.record handle u =
            (rest, r, t)) := by
  rw [mount_eq] at h
  rcases Plan.record_except_cases h with
    ⟨f, hsearch, rfl⟩ | ⟨during, found, u, rest, hsearch, hrest, rfl⟩
  · exact ⟨xs, _, t, [], hsearch, (List.append_nil _).symm, .inl ⟨f, rfl, rfl, rfl, rfl⟩⟩
  · exact ⟨during, _, u, rest, hsearch, rfl, .inr ⟨found.1, found.2, rfl, hrest⟩⟩

variable {rounds : Nat} {filterText : Option String} {args : List String} {i : Invocation}

theorem mount_outcome {volume : String} {target : Path} {fstype : String}
    {options : MountOptions} {timeoutSecs : Option Nat} (hparse : parse args = some i)
    (hcommand : i.command = .mount volume target fstype options timeoutSecs)
    (handle : Plan.Handler Unix σ) (s : σ) :
    let run := (program rounds filterText args).record handle s
    let start := (startLog i.logFile i.verbose filterText).record handle s
    let looked := (search i.config volume timeoutSecs).run.record handle start.2.2
    ∃ rest, run.1 = start.1 ++ (looked.1 ++ rest) ∧
      (run.2.1.exitCode = 0 ↔ ∃ config device, looked.2.1 = .ok (config, device) ∧
        madeDirectories target (.ok ()) ∈ rest ∧
        ∃ type flags data, mountCalled device target type flags data (.ok ()) ∈ rest) ∧
      (∀ config device, looked.2.1 = .ok (config, device) → run.2.1.exitCode = 0 →
        run.2.1.stdout = device.text ++ "\n") ∧
      ∀ f, looked.2.1 = .error f → rest = [] ∧ (∀ p answer, madeDirectories p answer ∉ looked.1) ∧
        (∀ ran ∈ programRuns run.1, ran = ("udevadm", ["trigger"])) ∧ mountCalls run.1 = [] ∧
        run.2.2 = looked.2.2 := by
  intro run start looked
  obtain ⟨before, u, xs, r, hstart, hrun, hbefore, hending⟩ :=
    record_program hparse (show _ = (run.1, run.2.1, run.2.2) from rfl)
  rw [hcommand] at hrun
  obtain ⟨during, found, v, rest, hsearch, rfl, hrest⟩ := record_mount hrun
  -- runs are determined by the state they begin in, so the search of this one is `looked`
  have hstarted : start = (before, (), u) := hstart
  have hlooked : looked = (during, found, v) := by
    change (search i.config volume timeoutSecs).run.record handle start.2.2 = _
    rw [hstarted, hsearch]
  rw [hbefore, hending, hstarted, hlooked]
  refine ⟨rest, rfl, ?_⟩
  rcases hrest with ⟨f, rfl, rfl, rfl, rfl⟩ | ⟨config, device, rfl, hfound⟩
  · have hstarts := (startCall_startLog _ _ _).of_record hstart
    have hcalls := (searchCall_search _ _ _).of_record hsearch
    refine ⟨iff_of_false nofun ?_, fun _ _ h => ?_, fun _ _ => ⟨rfl, ?_⟩⟩
    · rintro ⟨_, _, h, -⟩
      cases h
    · cases h
    rw [List.append_nil, programRuns_append, mountCalls_append, programRuns_of_start hstarts,
      mountCalls_of_start hstarts]
    exact ⟨fun p answer hmem => hcalls _ hmem, programRuns_of_search hcalls,
      mountCalls_of_search hcalls, rfl⟩
  · rcases mountFound_record hfound with ⟨rfl, hmade, hcalled⟩ | ⟨⟨f, rfl⟩, hnone⟩
    · refine ⟨iff_of_true rfl ⟨config, device, rfl, hmade, hcalled⟩, fun _ _ h _ => ?_, nofun⟩
      obtain rfl := (Prod.mk.inj (Except.ok.inj h)).2
      rfl
    · refine ⟨iff_of_false nofun ?_, nofun, nofun⟩
      rintro ⟨_, _, h, -, type, flags, data, hcalled⟩
      exact hnone _ _ _ _ _ hcalled

theorem load_outcome {file : Path} (hparse : parse args = some i) (hconfig : i.config = some file)
    (handle : Plan.Handler Unix σ) (s : σ) :
    let run := (program rounds filterText args).record handle s
    let start := (startLog i.logFile i.verbose filterText).record handle s
    LoadFails handle start.2.2 file →
      run.2.1.exitCode ≠ 0 ∧ programRuns run.1 = [] ∧ mountCalls run.1 = [] ∧
        run.2.2 = (handle (.readFile file) start.2.2).2 := by
  intro run start hfails
  obtain ⟨before, u, xs, r, hstart, hrun, hbefore, hending⟩ :=
    record_program hparse (show _ = (run.1, run.2.1, run.2.2) from rfl)
  have hstarted : start = (before, (), u) := hstart
  rw [hstarted] at hfails ⊢
  obtain ⟨f, hsettings⟩ := record_settings_of_fails hfails
  rw [hconfig] at hrun
  rcases Plan.record_except_cases hrun with ⟨e, hread, rfl⟩ | ⟨_, _, _, _, hread, -, -⟩
  · obtain ⟨rfl, hend⟩ := Prod.mk.inj (hread.symm.trans hsettings)
    have hstarts := (startCall_startLog _ _ _).of_record hstart
    rw [hbefore, hending, programRuns_append, mountCalls_append, programRuns_of_start hstarts,
      mountCalls_of_start hstarts]
    exact ⟨nofun, rfl, rfl, (Prod.mk.inj hend).2⟩
  · cases hsettings.symm.trans hread

theorem searched_of_not_found {volume : String} {target : Path} {fstype : String}
    {options : MountOptions} {timeoutSecs : Option Nat} {f : Failure}
    (hparse : parse args = some i)
    (hcommand : i.command = .mount volume target fstype options timeoutSecs) (m : Machine)
    (hfails : ((search i.config volume timeoutSecs).run.run answer
      ((startLog i.logFile i.verbose filterText).run answer m).2).1 = .error f) :
    Searched ((startLog i.logFile i.verbose filterText).run answer m).2
      ((program rounds filterText args).run answer m).2 := by
  obtain ⟨_, -, -, -, hfailed⟩ := mount_outcome hparse hcommand answer m
  obtain ⟨-, -, -, -, hend⟩ := hfailed f (by rw [Plan.record_snd, Plan.record_snd]; exact hfails)
  rw [Plan.record_snd, Plan.record_snd, Plan.record_snd] at hend
  rw [hend]
  exact searched_run (searchCall_search i.config volume timeoutSecs) _

theorem logStarted_of_fails {file : Path} (hparse : parse args = some i)
    (hconfig : i.config = some file) (m : Machine)
    (hfails : LoadFails answer ((startLog i.logFile i.verbose filterText).run answer m).2 file) :
    LogStarted i.logFile m ((program rounds filterText args).run answer m).2 := by
  have hstart := Plan.record_snd answer (startLog i.logFile i.verbose filterText) m
  rw [← hstart] at hfails
  obtain ⟨-, -, -, hend⟩ := load_outcome hparse hconfig answer m hfails
  rw [Plan.record_snd, hstart] at hend
  rw [hend]
  exact logStarted_startLog i.logFile i.verbose filterText m

/-- A run that fails prints nothing. A mount succeeds just when its device was found, its directory
is there and the mount call succeeded, and then it prints the device; if the device is not found,
nothing is made, started or mounted. If the settings cannot be loaded, every command fails and all
that changes is the log file. -/
theorem program_fails_cleanly (rounds : Nat) (filterText : Option String) (args : List String)
    (i : Invocation) (hparse : parse args = some i) :
    (∀ (σ : Type) (handle : Plan.Handler Unix σ) (s : σ),
      let run := (program rounds filterText args).record handle s
      let start := (startLog i.logFile i.verbose filterText).record handle s
      (run.2.1.exitCode ≠ 0 → run.2.1.stdout = "") ∧
      (∀ volume target fstype options timeoutSecs,
        i.command = .mount volume target fstype options timeoutSecs →
        let looked := (search i.config volume timeoutSecs).run.record handle start.2.2
        ∃ rest, run.1 = start.1 ++ (looked.1 ++ rest) ∧
          (run.2.1.exitCode = 0 ↔ ∃ config device, looked.2.1 = .ok (config, device) ∧
            madeDirectories target (.ok ()) ∈ rest ∧
            ∃ type flags data, mountCalled device target type flags data (.ok ()) ∈ rest) ∧
          (∀ config device, looked.2.1 = .ok (config, device) → run.2.1.exitCode = 0 →
            run.2.1.stdout = device.text ++ "\n") ∧
          ∀ f, looked.2.1 = .error f →
            rest = [] ∧ (∀ p answer, madeDirectories p answer ∉ looked.1) ∧
            (∀ ran ∈ programRuns run.1, ran = ("udevadm", ["trigger"])) ∧
            mountCalls run.1 = [] ∧ run.2.2 = looked.2.2) ∧
      ∀ file, i.config = some file → LoadFails handle start.2.2 file →
        run.2.1.exitCode ≠ 0 ∧ programRuns run.1 = [] ∧ mountCalls run.1 = []) ∧
    ∀ m : Machine,
      let start := ((startLog i.logFile i.verbose filterText).run answer m).2
      let t := ((program rounds filterText args).run answer m).2
      (∀ volume target fstype options timeoutSecs f,
        i.command = .mount volume target fstype options timeoutSecs →
        ((search i.config volume timeoutSecs).run.run answer start).1 = .error f →
        (m.tree.logDirectories i.logFile).SameDirectories t.tree ∧
        (∃ count, t.started = m.started ++ List.replicate count ["udevadm", "trigger"]) ∧
        t.mountCalls = m.mountCalls ∧ t.mountTable = m.mountTable) ∧
      ∀ file, i.config = some file → LoadFails answer start file →
        t.started = m.started ∧ t.mountCalls = m.mountCalls ∧ t.mountTable = m.mountTable ∧
        (∀ place node, m.tree.node? place = some node → t.tree.node? place = some node) ∧
        ∀ place node, t.tree.node? place = some node → m.tree.node? place = none →
          node = .directory ∧
              (m.tree.logDirectories i.logFile).node? place = some .directory ∨
            node = .file [] ∧ ∃ p, i.logFile = some p ∧
              (m.tree.logDirectories i.logFile).openForWriting p = .ok (place, none) := by
  refine ⟨fun σ handle s => ⟨?_, fun volume target fstype options timeoutSecs hcommand =>
    mount_outcome hparse hcommand handle s, fun file hconfig hfails => ?_⟩,
    fun m => ⟨fun volume target fstype options timeoutSecs f hcommand hfails => ?_,
      fun file hconfig hfails => ?_⟩⟩
  · have hrun : (program rounds filterText args).record handle s = (_, _, _) := rfl
    obtain ⟨_, _, _, r, -, -, -, hending⟩ := record_program hparse hrun
    rw [hending]
    exact stdout_endingOf
  · obtain ⟨hexit, hprograms, hmounts, -⟩ := load_outcome hparse hconfig handle s hfails
    exact ⟨hexit, hprograms, hmounts⟩
  · have hstart := logStarted_startLog i.logFile i.verbose filterText m
    have hsearched : Searched _ ((program rounds filterText args).run answer m).2 :=
      searched_of_not_found hparse hcommand m hfails
    refine ⟨hstart.tree.same.trans hsearched.directories, ?_, ?_, ?_⟩
    · obtain ⟨count, hcount⟩ := hsearched.started
      exact ⟨count, by rw [hcount, hstart.others]⟩
    · rw [hsearched.mountCalls, hstart.others]
    · rw [hsearched.mountTable, hstart.others]
  · have hstart : LogStarted i.logFile m ((program rounds filterText args).run answer m).2 :=
      logStarted_of_fails hparse hconfig m hfails
    refine ⟨by rw [hstart.others], by rw [hstart.others], by rw [hstart.others], ?_, ?_⟩
    · exact fun place node => hstart.tree.keeps
    · exact fun place node => hstart.tree.adds

theorem program_fails_cleanly_unset_and_mounting :
    let command : Command := .mount "disk" ⟨"/mnt"⟩ "" ⟨[]⟩ none
    let unset := ["--config", "/none", "mount", "--volume-id", "disk", "--target", "/mnt"]
    let bare := Machine.ofTools []
    let given := ["mount", "--volume-id", "disk", "--target", "/mnt"]
    let linked := { Machine.ofTools [("blkid", ⟨some 0, Text.Utf8.encode "TYPE=xfs\n", []⟩)] with
      tree := ⟨[([], .directory), (["dev"], .directory), (["dev", "disk"], .directory),
        (["dev", "disk", "by-id"], .directory),
        (["dev", "disk", "by-id", "virtio-disk"], .file [])], []⟩ }
    let failed := (program 0 none unset).record answer bare
    let mounted := (program 0 none given).record answer linked
    (parse unset = some ⟨some ⟨"/none"⟩, none, false, command⟩ ∧
        LoadFails answer ((startLog none false none).record answer bare).2.2 ⟨"/none"⟩ ∧
        failed.2.1.exitCode ≠ 0 ∧ failed.2.1.stdout = "" ∧ programRuns failed.1 = [] ∧
        mountCalls failed.1 = []) ∧
      parse given = some ⟨none, none, false, command⟩ ∧
        mounted.2.1 = .success "/dev/disk/by-id/virtio-disk\n" ∧
        mounted.2.2.tree.node? ["mnt"] = some .directory ∧
        ∃ device : Path, device.text ++ "\n" = "/dev/disk/by-id/virtio-disk\n" ∧
          madeDirectories ⟨"/mnt"⟩ (.ok ()) ∈ mounted.1 ∧
          ∃ type flags data, mountCalled device ⟨"/mnt"⟩ type flags data (.ok ()) ∈ mounted.1 := by
  intro command unset bare given linked
  have hunset : parse unset = some ⟨some ⟨"/none"⟩, none, false, command⟩ := by decide +kernel
  have hfails : LoadFails answer ((startLog none false none).record answer bare).2.2
      ⟨"/none"⟩ := by
    intro content text config hread
    cases hread
  have hgiven : parse given = some ⟨none, none, false, command⟩ := by decide +kernel
  have hsuccess : ((program 0 none given).record answer linked).2.1 =
      .success "/dev/disk/by-id/virtio-disk\n" := by decide +kernel
  have htree : ((program 0 none given).record answer linked).2.2.tree.node? ["mnt"] =
      some .directory := by decide +kernel
  have hclean := (program_fails_cleanly 0 none unset _ hunset).1 Machine answer bare
  have hmounts := (program_fails_cleanly 0 none given _ hgiven).1 Machine answer linked
  -- the runs are not to be computed again
  generalize (program 0 none unset).record answer bare = failed at hclean ⊢
  generalize (program 0 none given).record answer linked = mounted at hsuccess htree hmounts ⊢
  obtain ⟨hstdout, -, hload⟩ := hclean
  obtain ⟨hexit, hprograms, hcalls⟩ := hload ⟨"/none"⟩ rfl hfails
  obtain ⟨-, hmount, -⟩ := hmounts
  obtain ⟨rest, hrun, hsucceeds, hprinted, -⟩ := hmount _ _ _ _ _ rfl
  have hzero : mounted.2.1.exitCode = 0 := by rw [hsuccess]; rfl
  obtain ⟨config, device, hlooked, hmade, type, flags, data, hcalled⟩ := hsucceeds.1 hzero
  have hdevice := hprinted config device hlooked hzero
  rw [hsuccess] at hdevice
  have hrest {x : Plan.Exchange Unix} (hx : x ∈ rest) : x ∈ mounted.1 := by
    rw [hrun]
    exact List.mem_append_right _ (List.mem_append_right _ hx)
  exact ⟨⟨hunset, hfails, hexit, hstdout hexit, hprograms, hcalls⟩, hgiven, hsuccess, htree,
    device, hdevice.symm, hrest hmade, type, flags, data, hrest hcalled⟩

end BlockVolume.CommandLine
