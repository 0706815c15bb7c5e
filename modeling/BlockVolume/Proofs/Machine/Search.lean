import BlockVolume.Machine
import BlockVolume.Proofs.Calls
import BlockVolume.Proofs.Machine.Trees

namespace BlockVolume

def SearchCall : SystemCall → Prop
  | .stat _ | .readDirectory _ | .readFile _ | .writeFile .. => True
  | .wait .. | .isCancelled _ | .within .. | .log _ => True
  | .spawn program args _ => program = "udevadm" ∧ args = ["trigger"]
  | _ => False

namespace Machine

/-- Between two states, no directory came or went, nothing was mounted or unmounted, and no program
was started but the trigger of the device manager. -/
structure Searched (m n : Machine) : Prop where
  directories : m.tree.SameDirectories n.tree
  started : ∃ count, n.started = m.started ++ List.replicate count ["udevadm", "trigger"]
  mountCalls : n.mountCalls = m.mountCalls
  mountTable : n.mountTable = m.mountTable

variable {m n o : Machine}

theorem Searched.trans (hmn : Searched m n) (hno : Searched n o) : Searched m o := by
  obtain ⟨a, ha⟩ := hmn.started
  obtain ⟨b, hb⟩ := hno.started
  refine ⟨hmn.directories.trans hno.directories, ⟨a + b, ?_⟩, ?_, ?_⟩
  · rw [hb, ha, List.append_assoc, List.replicate_append_replicate]
  · rw [hno.mountCalls, hmn.mountCalls]
  · rw [hno.mountTable, hmn.mountTable]

theorem searched_tree {tree : FileTree} (h : m.tree.SameDirectories tree) :
    Searched m { m with tree } :=
  ⟨h, ⟨0, (List.append_nil _).symm⟩, rfl, rfl⟩

theorem searched_signals (m : Machine) (signals : Signals) : Searched m { m with signals } :=
  ⟨.refl _, ⟨0, (List.append_nil _).symm⟩, rfl, rfl⟩

theorem Searched.refl (m : Machine) : Searched m m := searched_tree (.refl _)

theorem searched_log (m : Machine) (r : LogRecord) : Searched m (m.log r) := by
  unfold log
  split
  · split
    · exact ⟨.refl _, ⟨0, (List.append_nil _).symm⟩, rfl, rfl⟩
    · exact searched_tree (FileTree.append_same _ _ _)
  · exact .refl m

theorem searched_writeFile (m : Machine) (p : Path) (content : List UInt8) :
    Searched m (m.changeTree (·.writeFile p content)).2 := by
  unfold changeTree
  split
  · next tree h => exact searched_tree (FileTree.writeFile_same h)
  · exact .refl m

theorem searched_spawn {program : String} {args : List String}
    (h : program :: args = ["udevadm", "trigger"]) (limit : Duration) (m : Machine) :
    Searched m (m.spawn program args limit).2 := by
  have hstart (m : Machine) : Searched m { m with started := m.started ++ [program :: args] } :=
    ⟨.refl _, ⟨1, by rw [h]; rfl⟩, rfl, rfl⟩
  unfold spawn
  split
  · exact .refl m
  · next p _ =>
      split
      · exact searched_signals m _
      · refine (hstart m).trans ?_
        have hinterrupt (m : Machine) : Searched m (if p.interrupts then m.interrupt else m) := by
          split
          · exact (searched_signals m _).trans (searched_log _ _)
          · exact .refl m
        refine (hinterrupt _).trans ?_
        cases p.touches with
        | none => exact .refl _
        | some file => exact searched_writeFile _ file []

theorem searched_answer {c : SystemCall} (hc : SearchCall c) (m : Machine) :
    Searched m (answer c m).2 := by
  cases c with
  | stat | readDirectory | readFile | isCancelled | within => exact .refl m
  | writeFile p content => exact searched_writeFile m p content
  | wait d token => exact searched_signals m _
  | log r => exact searched_log m r
  | spawn program args limit =>
      obtain ⟨rfl, rfl⟩ := hc
      exact searched_spawn rfl limit m
  | _ => exact hc.elim

theorem searched_run {α : Type} {p : Plan Unix α} (hp : Plan.Only (I := Unix) SearchCall p)
    (m : Machine) : Searched m (p.run answer m).2 :=
  (hp.heeds (A := fun _ => SearchCall) (fun _ _ h => h) m).relates Searched.refl
    (fun _ _ _ => Searched.trans) fun m _ hc => searched_answer hc m

end Machine

end BlockVolume
