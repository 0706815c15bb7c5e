import BlockVolume.CommandLine.Run
import BlockVolume.Proofs.Machine.Search

namespace BlockVolume

namespace FileTree

def logDirectories (t : FileTree) (file : Option Path) : FileTree :=
  match file.bind Path.parent? with
  | some dir => (t.makeDirectories dir).2
  | none => t

theorem logDirectories_more (t : FileTree) (file : Option Path) :
    MoreDirectories t (t.logDirectories file) := by
  unfold logDirectories
  split
  · exact makeDirectories_more t _
  · exact .refl t

/-- The tree once a log file has been opened: a new one is empty. -/
inductive LogOpened (t : FileTree) (file : Option Path) : FileTree → Prop
  | kept : LogOpened t file (t.logDirectories file)
  | made {p : Path} {place : Place} (named : file = some p)
      (opened : (t.logDirectories file).openForWriting p = .ok (place, none)) :
      LogOpened t file ((t.logDirectories file).put place (.file []))

variable {t u : FileTree} {file : Option Path}

theorem LogOpened.same (h : LogOpened t file u) : SameDirectories (t.logDirectories file) u := by
  cases h with
  | kept => exact .refl _
  | made named opened => exact sameDirectories_put (not_directory_of_openForWriting opened) []

theorem LogOpened.keeps (h : LogOpened t file u) {place : Place} {node : FileNode}
    (hnode : t.node? place = some node) : u.node? place = some node := by
  have hmore : (t.logDirectories file).node? place = some node := by
    rcases logDirectories_more t file place with hsame | ⟨hnone, -⟩
    · rw [hsame, hnode]
    · cases hnone.symm.trans hnode
  cases h with
  | kept => exact hmore
  | @made p new named opened =>
      have hfree := node_of_openForWriting opened
      rw [node?_put]
      split
      · next hplace =>
          subst hplace
          cases hfree.symm.trans hmore
      · exact hmore

theorem LogOpened.adds (h : LogOpened t file u) {place : Place} {node : FileNode}
    (hnode : u.node? place = some node) (hnew : t.node? place = none) :
    node = .directory ∧ (t.logDirectories file).node? place = some .directory ∨
      node = .file [] ∧ ∃ p, file = some p ∧
        (t.logDirectories file).openForWriting p = .ok (place, none) := by
  have hmade (hnode : (t.logDirectories file).node? place = some node) :
      node = .directory ∧ (t.logDirectories file).node? place = some .directory := by
    rcases logDirectories_more t file place with hsame | ⟨-, hdir⟩
    · rw [hsame, hnew] at hnode
      cases hnode
    · rw [hdir] at hnode
      cases hnode
      exact ⟨rfl, hdir⟩
  cases h with
  | kept => exact .inl (hmade hnode)
  | @made p there named opened =>
      rw [node?_put] at hnode
      split at hnode
      · next hplace =>
          subst hplace
          cases hnode
          exact .inr ⟨rfl, p, named, opened⟩
      · exact .inl (hmade hnode)

end FileTree

namespace CommandLine

open Machine

def StartCall : SystemCall → Prop
  | .makeDirectories _ | .openLog _ | .complain _ | .filterLog _ => True
  | _ => False

/-- Between two states, the log was set up and nothing else happened. -/
structure LogStarted (file : Option Path) (m n : Machine) : Prop where
  others : n = { m with
    tree := n.tree, logFile := n.logFile, complaints := n.complaints, logFilter := n.logFilter }
  tree : m.tree.LogOpened file n.tree

variable {m n : Machine}

theorem startCall_complain (complaints : List String) :
    Plan.Only (I := Unix) StartCall (complain complaints) := by
  induction complaints with
  | nil => trivial
  | cons complaint rest ih => exact ⟨trivial, fun _ => ih⟩

theorem startCall_startLog (file : Option Path) (verbose : Bool) (filterText : Option String) :
    Plan.Only (I := Unix) StartCall (startLog file verbose filterText) := by
  have hrest (filter : LogFilter) (complaints : List String) :
      Plan.Only (I := Unix) StartCall ((complain complaints).bind fun _ => Unix.filterLog filter) :=
    (startCall_complain complaints).bind fun _ => ⟨trivial, fun _ => trivial⟩
  cases file with
  | none => exact hrest _ _
  | some p =>
      refine Plan.Only.bind ?_ fun _ => hrest _ _
      unfold openLog
      split
      · exact ⟨trivial, fun _ => trivial⟩
      · refine ⟨trivial, fun made => ?_⟩
        cases made with
        | ok _ => exact ⟨trivial, fun _ => trivial⟩
        | error e => trivial

theorem logStarted_opened {p : Path} {tree : FileTree}
    (htree : tree = m.tree.logDirectories (some p)) :
    LogStarted (some p) m (answer (.openLog p) { m with tree }).2 := by
  simp only [answer]
  split
  · next place opened h =>
      refine ⟨rfl, ?_⟩
      rw [htree] at h
      rcases FileTree.touch_cases h with rfl | ⟨hopen, rfl⟩
      · exact .kept
      · exact .made rfl hopen
  · exact ⟨rfl, htree ▸ .kept⟩

theorem logStarted_openLog (p : Path) (m : Machine) :
    LogStarted (some p) m ((openLog p).run answer m).2 := by
  unfold openLog
  cases hparent : p.parent? with
  | none =>
      have htree : m.tree = m.tree.logDirectories (some p) := by
        simp [FileTree.logDirectories, hparent]
      exact logStarted_opened htree
  | some dir =>
      have htree : (m.tree.makeDirectories dir).2 = m.tree.logDirectories (some p) := by
        simp [FileTree.logDirectories, hparent]
      have hmake : (Unix.makeDirectories dir).run answer m = ((m.tree.makeDirectories dir).1,
          { m with tree := (m.tree.makeDirectories dir).2 }) := rfl
      dsimp only [bind]
      rw [Plan.run_bind, hmake]
      cases (m.tree.makeDirectories dir).1 with
      | ok _ => exact logStarted_opened htree
      | error e => exact ⟨rfl, htree ▸ .kept⟩

theorem run_complain (complaints : List String) (m : Machine) :
    ((complain complaints).run answer m).2 =
      { m with complaints := ((complain complaints).run answer m).2.complaints } := by
  induction complaints generalizing m with
  | nil => rfl
  | cons complaint rest ih => exact ih _

theorem logStarted_startLog (file : Option Path) (verbose : Bool) (filterText : Option String)
    (m : Machine) : LogStarted file m ((startLog file verbose filterText).run answer m).2 := by
  have hrest {o : Machine} (h : LogStarted file m o) (complaints : List String)
      (filter : LogFilter) : LogStarted file m
        (((complain complaints).bind fun _ => Unix.filterLog filter).run answer o).2 := by
    have hfilter (o : Machine) : (Unix.filterLog filter).run answer o =
        ((), { o with logFilter := filter }) := rfl
    rw [Plan.run_bind, run_complain, hfilter]
    exact ⟨by rw [h.others], h.tree⟩
  cases file with
  | none => exact hrest ⟨rfl, .kept⟩ _ _
  | some p =>
      change LogStarted (some p) m
        (((openLog p).bind fun _ => (complain _).bind fun _ => Unix.filterLog _).run answer m).2
      rw [Plan.run_bind]
      exact hrest (logStarted_openLog p m) _ _

/-- The settings file cannot be read, is no text, or holds no settings that are valid. -/
def LoadFails {σ : Type} (handle : Plan.Handler Unix σ) (s : σ) (file : Path) : Prop :=
  ∀ content text config, (handle (.readFile file) s).1 = .ok content →
    Text.Utf8.decode? content = some text → Config.read text ≠ .ok config

variable {σ : Type} {handle : Plan.Handler Unix σ} {s : σ}

theorem run_always_bind {α β : Type} (plan : Plan Unix α) (f : α → Run β) :
    (always plan >>= f).run = plan.bind fun a => (f a).run := by
  change (plan.bind fun a => Plan.done (Except.ok a)).bind _ = _
  rw [Plan.bind_bind]
  rfl

def loaded : Except IoError (List UInt8) → Except Config.LoadFailure Config
  | .error e => .error (.unreadable e)
  | .ok content =>
    match Text.Utf8.decode? content with
    | some text => (Config.read text).mapError .invalid
    | none => .error (.unreadable .notText)

theorem load_eq (file : Path) :
    Config.load file = (Unix.readFile file).bind fun reply => .done (loaded reply) := by
  change Plan.bind (Unix.readText file) _ = _
  unfold Unix.readText
  dsimp only [bind]
  rw [Plan.bind_bind]
  refine congrArg (Plan.bind (Unix.readFile file)) (funext fun reply => ?_)
  cases reply with
  | error e => rfl
  | ok content =>
      dsimp only [loaded]
      cases Text.Utf8.decode? content <;> rfl

theorem loaded_of_fails {file : Path} (h : LoadFails handle s file) :
    ∃ e, loaded (handle (.readFile file) s).1 = .error e := by
  cases hread : (handle (.readFile file) s).1 with
  | error e => exact ⟨_, rfl⟩
  | ok content =>
      cases hdecode : Text.Utf8.decode? content with
      | none => exact ⟨.unreadable .notText, by simp only [loaded, hdecode]⟩
      | some text =>
          cases hconfig : Config.read text with
          | ok config => exact absurd hconfig (h content text config hread hdecode)
          | error e => exact ⟨.invalid e, by simp only [loaded, hdecode, hconfig]; rfl⟩

theorem settings_eq (file : Path) :
    (settings (some file)).run = (Unix.readFile file).bind fun reply =>
      .done ((loaded reply).mapError fun e => Failure.within ⟨e.reason, []⟩ (e.context file)) := by
  unfold settings
  rw [run_always_bind, load_eq, Plan.bind_bind]
  refine congrArg (Plan.bind (Unix.readFile file)) (funext fun reply => ?_)
  cases loaded reply <;> rfl

theorem record_settings_of_fails {file : Path} (h : LoadFails handle s file) :
    ∃ f, (settings (some file)).run.record handle s =
      ([⟨SystemCall.readFile file, (handle (.readFile file) s).1⟩], .error f,
        (handle (.readFile file) s).2) := by
  obtain ⟨e, hload⟩ := loaded_of_fails h
  refine ⟨Failure.within ⟨e.reason, []⟩ (e.context file), ?_⟩
  have hrecord : (settings (some file)).run.record handle s =
      ([⟨SystemCall.readFile file, (handle (.readFile file) s).1⟩],
        (loaded (handle (.readFile file) s).1).mapError
          fun e => Failure.within ⟨e.reason, []⟩ (e.context file),
        (handle (.readFile file) s).2) := by
    rw [settings_eq]
    rfl
  rw [hrecord, hload]
  rfl

end CommandLine

end BlockVolume
