import BlockVolume.CommandLine.Run
import BlockVolume.Proofs.MountTable.KernelLines
import BlockVolume.Proofs.MountTable.Lookup
import BlockVolume.Proofs.MountTable.References
import BlockVolume.Proofs.Mounting.Formatting
import BlockVolume.Proofs.Unix.Requests

namespace BlockVolume.Volume

open CommandLine MountTable Unix

variable {σ : Type} {handle : Plan.Handler Unix σ} {s : σ} {content : List UInt8} {text : String}

theorem run_mountEntries (hread : (handle (.readFile mountTableFile) s).1 = .ok content)
    (htext : Text.Utf8.decode? content = some text) :
    Unix.mountEntries.run handle s =
      (.ok (parse text), (handle (.readFile mountTableFile) s).2) := by
  have hreply : replyOf .mountEntries (.ok content) = .ok (parse text) := by
    simp only [replyOf, htext]
    rfl
  rw [mountEntries_eq, ← hreply, ← hread]
  rfl

def deviceIn (p : Path) (entries : List MountEntry) : String × Nat :=
  match MountTable.find p entries with
  | none => ("", 0)
  | some e => (e.source, (mountPointsOf e.source entries).length)

theorem run_deviceAt (hread : (handle (.readFile mountTableFile) s).1 = .ok content)
    (htext : Text.Utf8.decode? content = some text) (p : Path) :
    (onSystem (deviceAt p).run).run handle s =
      (.ok (deviceIn p (parse text)), (handle (.readFile mountTableFile) s).2) := by
  have hentries : (Operation.require Host.mountEntries).run.run (asHost handle) s =
      (.ok (parse text), (handle (.readFile mountTableFile) s).2) := by
    change ((Unix.mountEntries.run handle s).1.mapError VolumeError.host,
      (Unix.mountEntries.run handle s).2) = _
    rw [run_mountEntries hread htext]
    rfl
  rw [run_onSystem, deviceAt, Operation.run_run_bind, hentries]
  dsimp only [deviceIn]
  cases MountTable.find p (parse text) <;> rfl

def deviceLine (p : Path) : String × Nat → Except Failure String
  | (device, count) =>
    if device = "" then .error (.ofVolumeError (.notMounted p.text))
    else .ok (device ++ " " ++ toString count ++ "\n")

theorem deviceName_eq (rounds : Nat) (config : Config) (p : Path) :
    (printed rounds config (.deviceName p)).run =
      (onSystem (deviceAt p).run).bind fun answer =>
        .done ((answer.mapError Failure.ofVolumeError).bind (deviceLine p)) := by
  refine (Plan.bind_bind (onSystem (deviceAt p).run) _ _).trans ?_
  refine congrArg (Plan.bind _) (funext fun answer => ?_)
  match answer with
  | .ok (device, count) =>
      change ExceptT.run (if device = "" then throw _ else pure _ : Run String) =
        Plan.done (if device = "" then _ else _)
      by_cases h : device = ""
      · rw [if_pos h, if_pos h]
        rfl
      · rw [if_neg h, if_neg h]
        rfl
  | .error e => rfl

theorem run_deviceName (hread : (handle (.readFile mountTableFile) s).1 = .ok content)
    (htext : Text.Utf8.decode? content = some text) (rounds : Nat) (config : Config) (p : Path) :
    (printed rounds config (.deviceName p)).run.run handle s =
      (deviceLine p (deviceIn p (parse text)), (handle (.readFile mountTableFile) s).2) := by
  rw [deviceName_eq, Plan.run_bind, run_deviceAt hread htext]
  rfl

theorem deviceIn_of_last {p : Path} {entries : List MountEntry} {e : MountEntry}
    (h : LastAt (fun e => e.mountPoint.SpelledAs p) entries e) :
    deviceIn p entries = (e.source, (stepsOf e.source entries).card) := by
  rw [deviceIn, find_eq_some_iff.2 h, ← length_mountPointsOf]

/-- What is to be answered of the device at `p`, and printed of it, if the mounts at `p` are the
entries that stand `here`. -/
structure DeviceAnswer (here : MountEntry → Prop) (p : Path) (entries : List MountEntry)
    (device : String) (count : Nat) (line : Except Failure String) : Prop where
  unnamed : (device, count) = ("", 0) ↔ ∀ e ∈ entries, ¬ here e
  unmounted : line = .error (.ofVolumeError (.notMounted p.text)) ↔ ∀ e ∈ entries, ¬ here e
  named : (∃ e ∈ entries, here e) → ∃ e, LastAt here entries e ∧
    device = e.source ∧ device ≠ "" ∧ count = (stepsOf device entries).card ∧ 1 ≤ count ∧
    (∀ shuffled, shuffled.Perm entries → (mountPointsOf device shuffled).length = count) ∧
    line = .ok (device ++ " " ++ toString count ++ "\n")

variable {here there : MountEntry → Prop} {p : Path} {entries : List MountEntry} {device : String}
  {count : Nat} {line : Except Failure String}

theorem DeviceAnswer.congr (h : DeviceAnswer here p entries device count line)
    (hsame : ∀ e ∈ entries, here e ↔ there e) : DeviceAnswer there p entries device count line := by
  have hnone : (∀ e ∈ entries, ¬ here e) ↔ ∀ e ∈ entries, ¬ there e :=
    forall₂_congr fun e he => not_congr (hsame e he)
  refine ⟨h.unnamed.trans hnone, h.unmounted.trans hnone, fun ⟨e, he, hthere⟩ => ?_⟩
  obtain ⟨last, hlast, hanswer⟩ := h.named ⟨e, he, (hsame e he).2 hthere⟩
  exact ⟨last, hlast.congr hsame, hanswer⟩

theorem deviceAnswer_parse (p : Path) (text : String) :
    DeviceAnswer (fun e => e.mountPoint.SpelledAs p) p (parse text) (deviceIn p (parse text)).1
      (deviceIn p (parse text)).2 (deviceLine p (deviceIn p (parse text))) := by
  cases hfind : MountTable.find p (parse text) with
  | none =>
      have hnone := find_eq_none_iff.1 hfind
      rw [show deviceIn p (parse text) = ("", 0) by rw [deviceIn, hfind]]
      exact ⟨iff_of_true rfl hnone, iff_of_true rfl hnone,
        fun ⟨e, he, hhere⟩ => absurd hhere (hnone e he)⟩
  | some e =>
      have hlast := find_eq_some_iff.1 hfind
      have hsource : e.source ≠ "" := (texts_ne_of_mem_parse hlast.mem).2
      have hsome : ¬ ∀ e ∈ parse text, ¬ e.mountPoint.SpelledAs p :=
        fun hnone => hnone e hlast.mem hlast.here
      rw [deviceIn_of_last hlast, deviceLine, if_neg hsource]
      refine ⟨iff_of_false (fun h => hsource (congrArg Prod.fst h)) hsome, iff_of_false nofun hsome,
        fun _ => ⟨e, hlast, rfl, hsource, rfl, card_stepsOf_pos hlast.mem, fun shuffled h => ?_, rfl⟩⟩
      rw [length_mountPointsOf, stepsOf_perm e.source h]

/-- The device at a path is named by the last entry of the mount table that is spelled as the path.
So where the path and its spellings in the table are tidy, no device is named only if nothing is
mounted there. -/
theorem deviceAt_table (hread : (handle (.readFile mountTableFile) s).1 = .ok content)
    (htext : Text.Utf8.decode? content = some text) (rounds : Nat) (config : Config) (p : Path) :
    let entries := parse text
    let t := (handle (.readFile mountTableFile) s).2
    ∃ device count line, (onSystem (deviceAt p).run).run handle s = (.ok (device, count), t) ∧
      (printed rounds config (.deviceName p)).run.run handle s = (line, t) ∧
      DeviceAnswer (fun e => e.mountPoint.SpelledAs p) p entries device count line ∧
      (p.text ≠ "" → p.Tidy →
        (∀ e ∈ entries, e.mountPoint.components = p.components → e.mountPoint.Tidy) →
        DeviceAnswer (fun e => e.mountPoint.components = p.components) p entries device count
          line) := by
  have hanswer := deviceAnswer_parse p text
  refine ⟨_, _, _, run_deviceAt hread htext p, run_deviceName hread htext rounds config p, hanswer,
    fun hp htidy hplaces => hanswer.congr fun e he => ⟨fun h => ?_, fun h => ?_⟩⟩
  · exact h.components_eq (texts_ne_of_mem_parse he).1 hp
  · exact (hplaces e he h).spelledAs htidy h

theorem deviceAt_table_stacked :
    let text := "1 0 8:1 / /a rw - xfs sdb\n2 0 8:2 / /a/ rw - xfs my\\040disk\n" ++
      "3 0 8:2 / /b//c rw - xfs my\\040disk\n4 0 8:2 / /b/c rw - xfs my\\040disk"
    let machine := { Machine.ofTools [] with mountTable := some (Text.Utf8.encode text) }
    let p : Path := ⟨"/a"⟩
    (Machine.answer (.readFile mountTableFile) machine).1 = .ok (Text.Utf8.encode text) ∧
      Text.Utf8.decode? (Text.Utf8.encode text) = some text ∧ p.text ≠ "" ∧ p.Tidy ∧
      (∀ e ∈ parse text, e.mountPoint.components = p.components → e.mountPoint.Tidy) ∧
      ((onSystem (deviceAt p).run).run Machine.answer machine).1 = .ok ("my disk", 2) ∧
      ((printed 0 Config.standard (.deviceName p)).run.run Machine.answer machine).1 =
        .ok "my disk 2\n" := by
  intro text machine p
  have hread : (Machine.answer (.readFile mountTableFile) machine).1 =
      .ok (Text.Utf8.encode text) := rfl
  have htext : Text.Utf8.decode? (Text.Utf8.encode text) = some text := by decide +kernel
  have hparse : parse text = [⟨⟨"/a"⟩, "xfs", "sdb"⟩, ⟨⟨"/a/"⟩, "xfs", "my disk"⟩,
      ⟨⟨"/b//c"⟩, "xfs", "my disk"⟩, ⟨⟨"/b/c"⟩, "xfs", "my disk"⟩] := by decide +kernel
  have htidy : p.Tidy := ⟨0, by decide, fun _ => rfl⟩
  have hplaces : ∀ e ∈ parse text, e.mountPoint.components = p.components → e.mountPoint.Tidy := by
    rw [hparse]
    simp only [List.forall_mem_cons, List.not_mem_nil, false_imp_iff, implies_true, and_true]
    refine ⟨fun _ => htidy, fun _ => ⟨1, by decide, by decide⟩, fun h => ?_, fun h => ?_⟩
    · exact absurd h (by decide)
    · exact absurd h (by decide)
  obtain ⟨device, count, line, hrun, hprinted, -, hanswer⟩ :=
    deviceAt_table hread htext 0 Config.standard p
  obtain ⟨e, hlast, rfl, -, hcount, -, -, hline⟩ := (hanswer (by decide) htidy hplaces).named
    ⟨⟨⟨"/a"⟩, "xfs", "sdb"⟩, by rw [hparse]; exact List.mem_cons_self, rfl⟩
  have hfind := find?_reverse_eq_some_iff.2 hlast
  rw [hparse] at hfind hcount
  obtain rfl : e = ⟨⟨"/a/"⟩, "xfs", "my disk"⟩ :=
    Option.some.inj (hfind.symm.trans (by decide +kernel))
  obtain rfl : count = 2 := hcount.trans (by decide +kernel)
  rw [hrun, hprinted, hline]
  exact ⟨hread, htext, by decide, htidy, hplaces, rfl, rfl⟩

/-- The root under two slashes, and a place under a doubled slash: both are mounted, and no device
is named. -/
theorem deviceAt_respelled :
    let text := "36 28 0:31 / / rw - ext4 /dev/sda3 rw\n37 28 8:16 / /mnt/a rw - xfs /dev/sdb rw\n"
    let machine := { Machine.ofTools [] with mountTable := some (Text.Utf8.encode text) }
    let device (p : Path) := ((onSystem (deviceAt p).run).run Machine.answer machine).1
    let line (p : Path) :=
      ((printed 0 Config.standard (.deviceName p)).run.run Machine.answer machine).1
    ((∃ e ∈ parse text, e.mountPoint.components = Path.components ⟨"//"⟩) ∧
        device ⟨"//"⟩ = .ok ("", 0) ∧ line ⟨"//"⟩ = .error (.ofVolumeError (.notMounted "//"))) ∧
      (∃ e ∈ parse text, e.mountPoint.components = Path.components ⟨"/mnt//a"⟩) ∧
        device ⟨"/mnt//a"⟩ = .ok ("", 0) ∧
        line ⟨"/mnt//a"⟩ = .error (.ofVolumeError (.notMounted "/mnt//a")) := by
  intro text machine device line
  have hread : (Machine.answer (.readFile mountTableFile) machine).1 =
      .ok (Text.Utf8.encode text) := rfl
  have htext : Text.Utf8.decode? (Text.Utf8.encode text) = some text := by decide +kernel
  have hparse : parse text = [⟨⟨"/"⟩, "ext4", "/dev/sda3"⟩, ⟨⟨"/mnt/a"⟩, "xfs", "/dev/sdb"⟩] := by
    decide +kernel
  have hmissed {p : Path} (h : deviceIn p (parse text) = ("", 0)) :
      device p = .ok ("", 0) ∧ line p = .error (.ofVolumeError (.notMounted p.text)) := by
    simp only [device, line]
    rw [run_deviceAt hread htext, run_deviceName hread htext, h]
    exact ⟨rfl, rfl⟩
  rw [hparse] at hmissed ⊢
  exact ⟨⟨⟨_, List.mem_cons_self, by decide⟩, hmissed (by decide)⟩,
    ⟨_, .tail _ List.mem_cons_self, by decide⟩, hmissed (by decide)⟩

end BlockVolume.Volume
